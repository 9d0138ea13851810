import Screenwright.Json.Reader
import Screenwright.Validation.ScreenSchema
import Screenwright.Validation.Walk

/-! Validators: a document is checked against a schema document, or by the walk where there is no
usable one. -/
namespace Screenwright

/-- How documents are checked. No document can be checked against a schema text with an integer of
too many digits. -/
inductive Validator where
  | schema (document : Schema)
  | walk
  | oversized (e : OversizedInteger)

/-- Why the check of a document ends without an answer. -/
inductive CheckFault where
  | compoundType (t : CompoundType)
  | oversized (e : OversizedInteger)
  deriving DecidableEq, Repr

def CheckFault.message : CheckFault → String
  | compoundType t => t.message
  | oversized e => e.message

/-- The issues of one document under the name of its screen, which make it unusable. -/
structure InvalidScreen where
  name : String
  issues : List Issue
  deriving DecidableEq, Repr

/-- One line for the screen and one for each of its issues. -/
def InvalidScreen.message (e : InvalidScreen) : String :=
  s!"{e.name} failed validation with {e.issues.length} issue(s):\n" ++
    "\n".intercalate (e.issues.map Issue.line)

/-- Why a document gave no screen. -/
inductive ScreenError where
  | invalid (e : InvalidScreen)
  | unchecked (f : CheckFault)
  deriving DecidableEq, Repr

namespace Validator

/-- The validator of a schema file with the given text; an unusable text selects the walk. -/
def ofText (text : Option String) : Validator :=
  match text.map Json.ofText with
  | some (.error (.oversized e)) => .oversized e
  | some (.ok j) => ((Schema.ofJson? j).map .schema).getD .walk
  | none | some (.error (.malformed _)) => .walk

/-- Whether documents are checked against a schema document. -/
def usesSchema : Validator → Bool
  | schema _ => true
  | walk | oversized _ => false

/-- Every issue of a raw document; an accepted document has none. -/
def issues (v : Validator) (doc : Json) : Except CheckFault (List Issue) :=
  match v with
  | walk => (Walk.documentIssues doc).mapError .compoundType
  | oversized e => .error (.oversized e)
  | schema s => .ok ((Schema.sorted (s.check doc)).map fun e => ⟨Place.path "" e.place, e.message⟩)

/-- The screen of a raw document. A document that passes but is no screen has the faults of its
reading as issues. -/
def screen (v : Validator) (name : String) (doc : Json) : Except ScreenError ScreenSpec :=
  match v.issues doc with
  | .error f => .error (.unchecked f)
  | .ok (i :: is) => .error (.invalid ⟨name, i :: is⟩)
  | .ok [] =>
    match ScreenSpec.decode doc with
    | .ok s => .ok s
    | .bad faults => .error (.invalid ⟨name, faults.map (Issue.ofFault "")⟩)

end Validator
end Screenwright

import Screenwright.Json.Reader
import Screenwright.Record.Fault

/-! Why an input of a project could not be read. -/
namespace Screenwright

/-- An input that cannot be read, which ends the whole run. -/
inductive LoadError where
  | missing (what path : String)
  | unreadable (what path detail : String)
  | malformed (path detail : String)
  | missingTokens (path : String)
  | unreadableTokens (path detail : String)
  | malformedTokens (path detail : String)
  | tokensNotObject (path : String)
  | invalidTokens (path : String) (faults : List RecordFault)
  | missingScreens (directory : String)
  | noScreens (directory : String)
  | componentsNotList (source : String)
  | invalidComponent (source : String) (faults : List RecordFault)
  | oversized (e : OversizedInteger)
  deriving DecidableEq, Repr

namespace LoadError

/-- Where the faults of a record are listed in a message. -/
def faultList : String := "<issues>"

def message : LoadError → String
  | missing what path => s!"{what} not found: {path}"
  | unreadable what path detail => s!"Failed to read {what.toLower}: {path}: {detail}"
  | malformed path detail => s!"Invalid JSON in {path}: {detail}"
  | missingTokens path => s!"Tokens file not found: {path}"
  | unreadableTokens path detail => s!"Failed to read tokens file: {path}: {detail}"
  | malformedTokens path detail => s!"Invalid JSON in tokens file: {path}: {detail}"
  | tokensNotObject path => s!"Tokens file must contain a JSON object: {path}"
  | invalidTokens path _ => s!"Invalid token table in {path}: {faultList}"
  | missingScreens directory => s!"Screens directory not found: {directory}"
  | noScreens directory =>
    s!"No *.screen.json files found in {directory}. Create at least one screen spec."
  | componentsNotList source => s!"{source}: component registry must be a JSON array"
  | invalidComponent source _ => s!"{source}: invalid component definition: {faultList}"
  | oversized e => e.message

/-- The error of a text that is no JSON value, where `malformed` says so of a malformed one. -/
def ofText (malformed : String → LoadError) : Json.TextError → LoadError
  | .malformed detail => malformed detail
  | .oversized e => oversized e

/-- The record faults behind an error, if it has any. -/
def faults? : LoadError → Option (List RecordFault)
  | invalidTokens _ faults | invalidComponent _ faults => some faults
  | _ => none

end LoadError
end Screenwright

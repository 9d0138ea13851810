import Screenwright.Document.Tree
import Screenwright.Files.Path
import Screenwright.Json.Equality
import Screenwright.Json.Text
import Screenwright.Validation.Validator

/-! Lint: mistakes of authors in documents that are valid, within one screen and across screens. -/
namespace Screenwright

inductive Severity where
  | error
  | warn
  deriving DecidableEq, Repr

def Severity.name : Severity → String
  | error => "error"
  | warn => "warn"

/-- What lint looks for. -/
inductive LintRule where
  | schema
  | duplicateId
  | emptyChildren
  | headingHierarchy
  | imageAlt
  | emptyLabel
  | duplicateRoute
  | sharedId
  deriving DecidableEq, Repr

namespace LintRule

def name : LintRule → String
  | schema => "schema"
  | duplicateId => "duplicate-id"
  | emptyChildren => "empty-children"
  | headingHierarchy => "heading-hierarchy"
  | imageAlt => "image-alt"
  | emptyLabel => "empty-label"
  | duplicateRoute => "duplicate-route"
  | sharedId => "cross-screen-duplicate-id"

def severity : LintRule → Severity
  | schema | duplicateId | imageAlt | duplicateRoute => .error
  | emptyChildren | headingHierarchy | emptyLabel | sharedId => .warn

end LintRule

/-- A mistake and the file or files that it is in. -/
structure LintIssue where
  file : String
  rule : LintRule
  message : String
  deriving DecidableEq, Repr

def LintIssue.severity (i : LintIssue) : Severity := i.rule.severity

/-- Why lint ends without an answer: a document that cannot be checked, or a heading level that
cannot be kept or ordered. -/
inductive LintFault where
  | unchecked (f : CheckFault)
  | compoundLevel (t : CompoundType)
  | unordered (typeName : String)
  deriving DecidableEq, Repr

def LintFault.message : LintFault → String
  | unchecked f => f.message
  | compoundLevel t => t.message
  | unordered name => s!"'>' not supported between instances of '{name}' and 'int'"

namespace Lint

/-- Values by key; keys are in the order of their first entries. -/
def grouped (es : List (String × String)) : Fields (List String) :=
  es.foldl (fun groups e => Fields.set groups e.1 ((Fields.get? groups e.1).getD [] ++ [e.2])) []

def commaList (xs : List String) : String := ", ".intercalate xs

def duplicateIds (file : String) (tree : Node) : List LintIssue :=
  (grouped ((tree.walk "tree").map fun e => (e.1.id, e.2))).filterMap fun g =>
    if 1 < g.2.length then
      some ⟨file, .duplicateId,
        s!"Node ID '{g.1}' is used {g.2.length} times: " ++ commaList g.2⟩
    else none

/-- The level above which a level may stand; levels from one down need none. -/
def levelAbove? (level : Json) : Except LintFault (Option Json) :=
  match level with
  | .arr _ => .error (.compoundLevel .list)
  | .obj _ => .error (.compoundLevel .object)
  | .null | .str _ => .error (.unordered level.typeName)
  | .bool _ => .ok none
  | .int n => .ok (if 1 < n then some (.int (n - 1)) else none)
  | .float x => .ok (x.predecessorAboveOne?.map .float)

/-- The mistake of a heading after headings of the levels seen before it. -/
def headingIssue? (file path : String) (seen : List Json) (level : Json) :
    Except LintFault (Option LintIssue) :=
  (levelAbove? level).map fun above => do
    let above ← above
    if (level :: seen).any (Json.sameValue above) then none
    else some ⟨file, .headingHierarchy,
      s!"{path}: Heading level {level.text} without a preceding level {above.text}"⟩

def headingLevel (n : Node) : Json := (Fields.get? n.props "level").getD (.int 1)

/-- Whether a prop is a text that is not blank. -/
def hasText (n : Node) (prop : String) : Bool :=
  match Fields.get? n.props prop with
  | some (.str s) => Text.hasInk s
  | _ => false

/-- The mistakes of one node, its level as a heading apart. -/
def nodeIssues (file path : String) (n : Node) : List LintIssue :=
  let issue := fun (wrong : Bool) rule message =>
    if wrong then [LintIssue.mk file rule (path ++ ": " ++ message)] else []
  match BuiltinType.ofName? n.type with
  | some .image => issue (!hasText n "alt") .imageAlt
      "Image is missing an 'alt' prop (required for accessibility)"
  | some .button => issue (!hasText n "label") .emptyLabel "Button has no 'label' prop"
  | some .link => issue (!hasText n "text") .emptyLabel "Link has no 'text' prop"
  | _ => []

def childrenIssues (file path : String) (n : Node) : List LintIssue :=
  match n.children? with
  | some [] => [⟨file, .emptyChildren,
      path ++ ": Empty children array; omit the key instead of using []"⟩]
  | _ => []

/-- The mistakes of nodes in order, after headings of the levels seen. -/
def nodesIssues (file : String) (seen : List Json) :
    List (Node × String) → Except LintFault (List LintIssue)
  | [] => .ok []
  | (n, path) :: rest => do
    let own := childrenIssues file path n ++ nodeIssues file path n
    if n.type = BuiltinType.heading.name then
      let heading ← headingIssue? file path seen (headingLevel n)
      pure (own ++ heading.toList ++ (← nodesIssues file (headingLevel n :: seen) rest))
    else pure (own ++ (← nodesIssues file seen rest))

/-- The mistakes within one screen. -/
def treeIssues (file : String) (tree : Node) : Except LintFault (List LintIssue) :=
  (nodesIssues file [] (tree.walk "tree")).map (duplicateIds file tree ++ ·)

/-- The routes and ids that several screens have. -/
def crossIssues (screens : List (String × ScreenSpec)) : List LintIssue :=
  let routes := grouped (screens.map fun s => (s.2.route, s.1))
  let owners := grouped (screens.flatMap fun s => s.2.tree.ids.eraseDups.map (·, s.1))
  (routes.filterMap fun g =>
    if 1 < g.2.length then
      some ⟨commaList g.2, .duplicateRoute,
        s!"Route '{g.1}' is defined in {g.2.length} files: " ++ commaList g.2⟩
    else none) ++
  owners.filterMap fun g =>
    if 1 < g.2.length then
      some ⟨commaList g.2, .sharedId,
        s!"Node ID '{g.1}' appears in {g.2.length} screens: " ++ commaList g.2⟩
    else none

/-- A raw document, its name in messages, and the file it is shown as. -/
structure Subject where
  file : String
  name : String
  document : Json

/-- The mistakes of one screen, and the screen where it is valid. -/
def screenIssues (v : Validator) (s : Subject) :
    Except LintFault (List LintIssue × Option (String × ScreenSpec)) :=
  match v.screen s.name s.document with
  | .error (.unchecked f) => .error (.unchecked f)
  | .error (.invalid e) => .ok ([⟨s.file, .schema, e.message⟩], none)
  | .ok spec => (treeIssues s.file spec.tree).map (·, some (s.file, spec))

/-- The mistakes of all screens in order; those across screens are last. -/
def issues (v : Validator) (subjects : List Subject) : Except LintFault (List LintIssue) :=
  (subjects.mapM (screenIssues v)).map fun rs =>
    rs.flatMap Prod.fst ++ crossIssues (rs.filterMap Prod.snd)

def hasErrors (is : List LintIssue) : Bool := is.any (·.severity == .error)

end Lint
end Screenwright

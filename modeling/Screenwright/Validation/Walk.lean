import Screenwright.Document.Screen
import Screenwright.Document.Component
import Screenwright.Text.Sorted
import Screenwright.Validation.PropTable

/-! Validation of raw documents by a walk over their nodes, which collects every issue. -/
namespace Screenwright

/-- A node type that is a list or an object, which ends the walk. -/
inductive CompoundType where
  | list
  | object
  deriving DecidableEq, Repr

def CompoundType.message : CompoundType → String
  | list => "unhashable type: 'list'"
  | object => "unhashable type: 'dict'"

namespace Walk

def isInkText : Option Json → Bool
  | some (.str s) => Text.hasInk s
  | _ => false

def sortedUnknown (known : List String) (fs : Fields Json) : List String :=
  Text.sorted (fs.keys.filter (!known.contains ·))

/-- The issue of a value unless it holds. -/
def expect (holds : Bool) (path message : String) : List Issue :=
  if holds then [] else [⟨path, message⟩]

def faultIssues {α : Type} (path : String) (x : Decoded α) : List Issue :=
  x.faults.map (Issue.ofFault path)

/-- The issues of a field that is a record when present. -/
def recordIssues {α : Type} (fs : Fields Json) (path key : String) (decode : Json → Decoded α) :
    List Issue :=
  match fs.get? key with
  | none => []
  | some v =>
    let path := path ++ "." ++ key
    if v.isObject then faultIssues path (decode v) else [⟨path, "must be an object"⟩]

def propsOf (fs : Fields Json) : Fields Json :=
  ((fs.get? "props").bind Json.asObject?).getD []

/-- The issues of the props of a node, by its type. -/
def propIssues (type : Option Json) (props : Fields Json) (path : String) :
    Except CompoundType (List Issue) :=
  match type with
  | some (.arr _) => .error .list
  | some (.obj _) => .error .object
  | some (.str tag) =>
    match BuiltinType.ofName? tag with
    | some t => .ok ((PropTable.allowed t).check props path)
    | none =>
      if tag ≠ referenceType then .ok []
      else if isInkText (props.get? "ref") then
        .ok (faultIssues (path ++ ".props") (ReferenceProps.ofFields props))
      else .ok [⟨path ++ ".props.ref", "must be a non-empty string"⟩]
  | _ => .ok []

/-- The issues of a node apart from its children. -/
def headIssues (fs : Fields Json) (path : String) : Except CompoundType (List Issue) := do
  let props ← propIssues (fs.get? "type") (propsOf fs) path
  pure ((sortedUnknown Node.fieldNames fs).map (fun k =>
      ⟨path ++ "." ++ k, "is not an allowed node field"⟩) ++
    expect (isInkText (fs.get? "id")) (path ++ ".id") "must be a non-empty string" ++
    expect (isInkText (fs.get? "type")) (path ++ ".type") "must be a non-empty string" ++
    expect (((fs.get? "props").map Json.isObject).getD true) (path ++ ".props")
      "must be an object" ++
    props ++
    recordIssues fs path "style" NodeStyle.decode ++
    recordIssues fs path "responsive" ResponsiveStyle.decode ++
    recordIssues fs path "interactions" Interactions.decode ++
    recordIssues fs path "dataSource" DataSource.decode)

mutual

/-- The issues of a node and of all nodes below it. -/
def nodeIssues (path : String) : Json → Except CompoundType (List Issue)
  | .obj fs => do
    let own ← headIssues fs path
    let below ← childIssues path fs
    pure (own ++ below)
  | _ => .ok [⟨path, "must be an object"⟩]

/-- The issues of the children among a node's fields. -/
def childIssues (path : String) : List (String × Json) → Except CompoundType (List Issue)
  | [] => .ok []
  | (k, v) :: fs => if k = "children" then listIssues path v else childIssues path fs

def listIssues (path : String) : Json → Except CompoundType (List Issue)
  | .arr xs => itemIssues path 0 xs
  | _ => .ok [⟨path ++ ".children", "must be an array"⟩]

def itemIssues (path : String) (i : Nat) : List Json → Except CompoundType (List Issue)
  | [] => .ok []
  | x :: xs => do
    let first ← nodeIssues s!"{path}.children[{i}]" x
    let rest ← itemIssues path (i + 1) xs
    pure (first ++ rest)

end

def isVersion : Option Json → Bool
  | some (.int n) => n == 1
  | _ => false

def isRoute : Option Json → Bool
  | some (.str s) => s.toList.head? == some '/'
  | _ => false

/-- The issues of a whole document. -/
def documentIssues : Json → Except CompoundType (List Issue)
  | .obj fs => do
    let tree ← match Fields.get? fs "tree" with
      | none => pure [⟨"tree", "is required"⟩]
      | some tree => nodeIssues "tree" tree
    pure ((sortedUnknown ["version", "route", "meta", "tree"] fs).map (fun k =>
        ⟨k, "is not an allowed top-level field"⟩) ++
      expect (isVersion (Fields.get? fs "version")) "version" "must be 1" ++
      expect (isRoute (Fields.get? fs "route")) "route" "must be a string starting with '/'" ++
      expect (((Fields.get? fs "meta").map Json.isObject).getD true) "meta" "must be an object" ++
      tree)
  | _ => .ok [⟨"spec", "must be an object"⟩]

end Walk
end Screenwright

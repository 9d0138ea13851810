import Screenwright.Document.Kind
import Screenwright.Editor.Basic
import Screenwright.Text.Blank

/-! The operations of the editor. Each one checks its conditions first; a refused operation changes
nothing but the count of issued ids. -/
namespace Screenwright.Editor

/-- Puts a tree whose ids are all new under a parent, and selects it. -/
def addNode (ed : Editor) (parent : String) (node : Node) (index : Option Int) :
    Editor × Outcome :=
  if !ed.tree.hasId parent then ed.reject (.parentNotFound parent)
  else
    let clashes := (node.ids.filter ed.tree.ids.contains).eraseDups
    if !clashes.isEmpty then ed.reject (.idsInUse (Text.sorted clashes))
    else ((ed.edit (Node.insertUnder parent node index)).select (some node.id)).apply

/-- Takes a node out; a selection inside it is given up. -/
def removeNode (ed : Editor) (id : String) : Editor × Outcome :=
  if id = ed.tree.id then ed.reject .rootRemoval
  else if ed.isLocked id then ed.reject (.locked id)
  else match ed.find? id with
    | none => ed.reject (.notFound id)
    | some node =>
      let after := ed.edit fun tree => ((tree.detach? id).map Detached.rest).getD tree
      let kept := ed.selected.filter fun s => !node.ids.contains s
      (after.select kept).apply

/-- Moves a node under a parent; the index counts the parent's children without the node. -/
def moveNode (ed : Editor) (id parent : String) (index : Int) : Editor × Outcome :=
  if id = ed.tree.id then ed.reject .rootMove
  else if ed.isLocked id then ed.reject (.locked id)
  else if !ed.tree.hasId id then ed.reject (.notFound id)
  else if !ed.tree.hasId parent then ed.reject (.parentNotFound parent)
  else if ed.tree.isWithin id parent then ed.reject (.intoItself parent id)
  else match ed.tree.detach? id with
    | none => ed.reject (.notFound id)
    | some d =>
      if d.rest.hasId parent then
        (ed.edit fun _ => Node.insertUnder parent d.node (some index) d.rest).apply
      else (ed.edit (fun _ => d.rest), .lostParent)

/-- The child list with the child of an id put at an index. -/
def placeChild (id : String) (index : Nat) (cs : List Node) : List Node :=
  match takeChild? id cs with
  | some (c, _, rest) => rest.insertIdx index c
  | none => cs

/-- Exchanges a node with a neighbour, the next one or the one before. -/
def shift (ed : Editor) (id : Option String) (offset : Int) : Editor × Outcome :=
  match ed.target? id with
  | none => ed.reject .nothingSelected
  | some id =>
    if id = ed.tree.id then ed.reject .rootMove
    else if ed.isLocked id then ed.reject (.locked id)
    else match ed.tree.findParent? id with
      | none => ed.reject (.notFound id)
      | some parent =>
        let index := Int.ofNat (parent.children.findIdx (·.id == id)) + offset
        if index < 0 ∨ parent.children.length ≤ index then ed.reject (.atEdge id)
        else (ed.edit (Node.updateSiblings id (placeChild id index.toNat))).apply

def moveUp (ed : Editor) (id : Option String) : Editor × Outcome := ed.shift id (-1)

def moveDown (ed : Editor) (id : Option String) : Editor × Outcome := ed.shift id 1

/-- An id without blanks at its ends and with low lines for those inside. -/
def cleanId (s : String) : String :=
  String.ofList (Text.squeeze Text.isBlank '_' (Text.strip s).toList)

/-- Replaces one member of a set of ids. -/
def renameIn (old new : String) (ids : List String) : List String :=
  if ids.contains old then ids.filter (fun i => i != old && i != new) ++ [new] else ids

/-- Gives a node a new id, which selection and flags follow. -/
def renameNode (ed : Editor) (old new : String) : Editor × Outcome :=
  let new := cleanId new
  if new = "" then ed.reject .emptyId
  else if new = old then ed.reject .sameId
  else if !ed.tree.hasId old then ed.reject (.notFound old)
  else if ed.tree.ids.contains new then ed.reject (.idInUse new)
  else
    let after := ed.edit (Node.updateFirst old (Node.setId new))
    { after with
      selected := if ed.selected = some old then some new else ed.selected
      hidden := renameIn old new ed.hidden
      locked := renameIn old new ed.locked }.apply

/-- Fields whose values are neither null nor the empty text. -/
def withoutEmpty (fs : Fields Json) : Fields Json :=
  fs.filter fun e => match e.2 with
    | .null => false
    | .str s => s != ""
    | _ => true

/-- Lays props over those of a node; null and the empty text remove a prop. -/
def updateProps (ed : Editor) (id : String) (props : Fields Json) : Editor × Outcome :=
  if ed.isLocked id then ed.reject (.locked id)
  else if !ed.tree.hasId id then ed.reject (.notFound id)
  else (ed.edit (Node.updateFirst id (Node.mapHead fun e =>
    { e with props := withoutEmpty (Fields.merge e.props props) }))).apply

/-- The style of a node with fields laid over it; a style without fields is dropped. -/
def changedStyle (style : Option NodeStyle) (fs : Fields Json) : Decoded (Option NodeStyle) :=
  match withoutEmpty (Fields.merge ((style.map NodeStyle.toFields).getD []) fs) with
  | [] => .ok none
  | fs => some <$> NodeStyle.ofFields fs

/-- What is wrong with a style, by its first fault. -/
def styleFault (faults : List RecordFault) : Rejection :=
  .invalidStyle ((faults.head?.map fun f => f.kind.message).getD "")

/-- Lays style fields over those of a node; null and the empty text remove a field. -/
def updateStyle (ed : Editor) (id : String) (fs : Fields Json) : Editor × Outcome :=
  if ed.isLocked id then ed.reject (.locked id)
  else match ed.find? id with
    | none => ed.reject (.notFound id)
    | some node =>
      match changedStyle node.head.style fs with
      | .bad faults => ed.reject (styleFault faults)
      | .ok style =>
        (ed.edit (Node.updateFirst id (Node.mapHead fun e => { e with style := style }))).apply

/-- A column around one node. -/
def wrapper (id : String) (child : Node) : Node :=
  .branch
    { id := id
      type := BuiltinType.stack.name
      props := [("direction", .str "column"), ("gap", .str "md")] }
    [child]

/-- The child list with a column around the child of an id. -/
def wrapChild (id wrapperId : String) (cs : List Node) : List Node :=
  match takeChild? id cs with
  | some (c, i, rest) => rest.insertIdx i (wrapper wrapperId c)
  | none => cs

/-- Puts a column around a node and selects the column. -/
def groupIntoStack (source : IdSource) (ed : Editor) (id : Option String) : Editor × Outcome :=
  match ed.target? id with
  | none => ed.reject .nothingSelected
  | some id =>
    if id = ed.tree.id then ed.reject .rootGrouping
    else match ed.tree.findParent? id with
      | none => ed.reject (.notFound id)
      | some _ =>
        let issued := ed.issued + 1
        let wrapperId := source issued (Text.lower BuiltinType.stack.name)
        let after := ed.edit (Node.updateSiblings id (wrapChild id wrapperId))
        ({ after with issued := issued }.select (some wrapperId)).apply

def copyNode (ed : Editor) (id : Option String) : Editor × Outcome :=
  match (ed.target? id).bind ed.find? with
  | none => ed.reject .nothingToCopy
  | some node => { ed with clipboard := some node }.apply

/-- Adds a copy of a tree under new ids. -/
def addCopy (source : IdSource) (ed : Editor) (copied : Node) (parent : String)
    (index : Option Int) : Editor × Outcome :=
  let r := copied.withFreshIds source ed.issued
  { ed with issued := r.2 }.addNode parent r.1 index

/-- The place behind a node: its parent, and the index after its own. -/
def placeBehind? (ed : Editor) (id : String) : Option (Node × Nat) :=
  (ed.tree.findParent? id).map fun parent =>
    (parent, parent.children.findIdx (·.id == id) + 1)

/-- Adds a copy of the clipboard behind the selection, or else at the end of the root. -/
def paste (source : IdSource) (ed : Editor) : Editor × Outcome :=
  match ed.clipboard with
  | none => ed.reject .emptyClipboard
  | some copied =>
    match ed.selected.bind ed.placeBehind? with
    | some (parent, index) => ed.addCopy source copied parent.id (some (Int.ofNat index))
    | none => ed.addCopy source copied ed.tree.id none

/-- Adds a copy of a node behind it. -/
def duplicate (source : IdSource) (ed : Editor) (id : Option String) : Editor × Outcome :=
  match ed.target? id with
  | none => ed.reject .nothingSelected
  | some id =>
    if id = ed.tree.id then ed.reject .rootDuplication
    else match ed.tree.findParent? id with
      | none => ed.reject (.notFound id)
      | some parent =>
        match takeChild? id parent.children with
        | none => ed.reject (.notFound id)
        | some (copied, i, _) =>
          ed.addCopy source copied parent.id (some (Int.ofNat (i + 1)))

/-- Shows another state of the screen; a selection that it lacks is given up. -/
def restore (ed : Editor) (state : ScreenSpec × History ScreenSpec) : Editor × Outcome :=
  { ed with
    spec := state.1
    history := state.2
    dirty := true
    selected := ed.selected.filter state.1.tree.hasId }.apply

def undo (ed : Editor) : Editor × Outcome :=
  match ed.history.undo? ed.spec with
  | none => ed.reject .nothingToUndo
  | some state => ed.restore state

def redo (ed : Editor) : Editor × Outcome :=
  match ed.history.redo? ed.spec with
  | none => ed.reject .nothingToRedo
  | some state => ed.restore state

end Screenwright.Editor

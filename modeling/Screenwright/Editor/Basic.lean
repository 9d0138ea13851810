import Screenwright.Document.Screen
import Screenwright.Editor.FreshId
import Screenwright.Editor.History
import Screenwright.Text.Sorted

/-! The editor: a screen under edit with selection, flags, clipboard and history. Flags and selection
are never part of the document. -/
namespace Screenwright

/-- Why an operation is refused. -/
inductive Rejection where
  | parentNotFound (id : String)
  | idsInUse (ids : List String)
  | rootRemoval
  | rootMove
  | rootGrouping
  | rootDuplication
  | locked (id : String)
  | notFound (id : String)
  | intoItself (parent id : String)
  | nothingSelected
  | atEdge (id : String)
  | emptyId
  | sameId
  | idInUse (id : String)
  | invalidStyle (message : String)
  | nothingToCopy
  | emptyClipboard
  | nothingToUndo
  | nothingToRedo
  deriving DecidableEq, Repr

def Rejection.message : Rejection → String
  | parentNotFound id => s!"parent '{id}' not found"
  | idsInUse ids => "id(s) already in use: " ++ ", ".intercalate ids
  | rootRemoval => "the root node cannot be removed"
  | rootMove => "the root node cannot be moved"
  | rootGrouping => "the root node cannot be grouped"
  | rootDuplication => "the root node cannot be duplicated"
  | locked id => s!"node '{id}' is locked"
  | notFound id => s!"node '{id}' not found"
  | intoItself parent id => s!"'{parent}' is inside the subtree of '{id}'"
  | nothingSelected => "no node selected"
  | atEdge id => s!"node '{id}' is already at the edge"
  | emptyId => "new id is empty"
  | sameId => "new id equals the old id"
  | idInUse id => s!"id '{id}' is already in use"
  | invalidStyle message => "invalid style: " ++ message
  | nothingToCopy => "nothing to copy"
  | emptyClipboard => "clipboard is empty"
  | nothingToUndo => "nothing to undo"
  | nothingToRedo => "nothing to redo"

/-- How an operation ends. A move fails when its target was part of what it took out, which only
happens under repeated ids. -/
inductive Outcome where
  | applied
  | rejected (reason : Rejection)
  | lostParent
  deriving DecidableEq, Repr

/-- A screen under edit. -/
structure Editor where
  spec : ScreenSpec
  history : History ScreenSpec
  /-- How many ids have been asked for. -/
  issued : Nat := 0
  selected : Option String := none
  hidden : List String := []
  locked : List String := []
  clipboard : Option Node := none
  dirty : Bool := false

namespace Editor

/-- An editor on a screen. -/
def create (spec : ScreenSpec) (limit : Int) : Except NoRoom Editor :=
  (History.create limit).map fun h => { spec := spec, history := h }

def tree (ed : Editor) : Node := ed.spec.tree

def find? (ed : Editor) (id : String) : Option Node := ed.tree.find? id

def isLocked (ed : Editor) (id : String) : Bool := ed.locked.contains id

def isHidden (ed : Editor) (id : String) : Bool := ed.hidden.contains id

/-- Keeps the current screen in the history before a change. -/
def checkpoint (ed : Editor) : Editor :=
  { ed with history := ed.history.record ed.spec, dirty := true }

/-- Changes the tree, the state before it being kept in the history. -/
def edit (ed : Editor) (f : Node → Node) : Editor :=
  let ed := ed.checkpoint
  { ed with spec := { ed.spec with tree := f ed.spec.tree } }

/-- The given id, or the selected one. -/
def target? (ed : Editor) (id : Option String) : Option String := id <|> ed.selected

def reject (ed : Editor) (reason : Rejection) : Editor × Outcome := (ed, .rejected reason)

def apply (ed : Editor) : Editor × Outcome := (ed, .applied)

def select (ed : Editor) (id : Option String) : Editor := { ed with selected := id }

/-- A list of ids with the membership of one turned over, and what it is now. -/
def toggle (ids : List String) (id : String) : List String × Bool :=
  if ids.contains id then (ids.filter (· != id), false) else (ids ++ [id], true)

def toggleHidden (ed : Editor) (id : String) : Editor × Bool :=
  let r := toggle ed.hidden id
  ({ ed with hidden := r.1 }, r.2)

def toggleLocked (ed : Editor) (id : String) : Editor × Bool :=
  let r := toggle ed.locked id
  ({ ed with locked := r.1 }, r.2)

def markClean (ed : Editor) : Editor := { ed with dirty := false }

end Editor
end Screenwright

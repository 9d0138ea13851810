import Screenwright.Editor.Operations

/-! Commands: the operations of the editor as data, and their runs. -/
namespace Screenwright

/-- One operation with its arguments. -/
inductive Command where
  | addNode (parent : String) (node : Node) (index : Option Int)
  | removeNode (id : String)
  | moveNode (id parent : String) (index : Int)
  | moveUp (id : Option String)
  | moveDown (id : Option String)
  | renameNode (id new : String)
  | updateProps (id : String) (props : Fields Json)
  | updateStyle (id : String) (style : Fields Json)
  | groupIntoStack (id : Option String)
  | copyNode (id : Option String)
  | paste
  | duplicate (id : Option String)
  | undo
  | redo
  | select (id : Option String)
  | toggleHidden (id : String)
  | toggleLocked (id : String)
  | isHidden (id : String)
  | isLocked (id : String)
  | markClean

/-- What a command answers. -/
inductive Reply where
  | outcome (o : Outcome)
  | flag (b : Bool)
  | silent
  deriving DecidableEq, Repr

namespace Editor

def replying (r : Editor × Outcome) : Editor × Reply := (r.1, .outcome r.2)

def flagging (r : Editor × Bool) : Editor × Reply := (r.1, .flag r.2)

/-- Runs one command; new ids come from the source. -/
def step (source : IdSource) (ed : Editor) : Command → Editor × Reply
  | .addNode parent node index => replying (ed.addNode parent node index)
  | .removeNode id => replying (ed.removeNode id)
  | .moveNode id parent index => replying (ed.moveNode id parent index)
  | .moveUp id => replying (ed.moveUp id)
  | .moveDown id => replying (ed.moveDown id)
  | .renameNode id new => replying (ed.renameNode id new)
  | .updateProps id props => replying (ed.updateProps id props)
  | .updateStyle id style => replying (ed.updateStyle id style)
  | .groupIntoStack id => replying (ed.groupIntoStack source id)
  | .copyNode id => replying (ed.copyNode id)
  | .paste => replying (ed.paste source)
  | .duplicate id => replying (ed.duplicate source id)
  | .undo => replying ed.undo
  | .redo => replying ed.redo
  | .select id => (ed.select id, .silent)
  | .toggleHidden id => flagging (ed.toggleHidden id)
  | .toggleLocked id => flagging (ed.toggleLocked id)
  | .isHidden id => (ed, .flag (ed.isHidden id))
  | .isLocked id => (ed, .flag (ed.isLocked id))
  | .markClean => (ed.markClean, .silent)

/-- The editor after a list of commands. -/
def run (source : IdSource) (ed : Editor) (commands : List Command) : Editor :=
  commands.foldl (fun ed c => (ed.step source c).1) ed

end Editor
end Screenwright

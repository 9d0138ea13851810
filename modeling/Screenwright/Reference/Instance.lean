import Screenwright.Json.Equality
import Screenwright.Reference.Resolution
import Screenwright.Text.Sorted

/-! Instances of components: which props a reference overrides, and the reference without any
changes of its own. -/
namespace Screenwright

/-- Overrides that are a value without fields. -/
structure NoFields where
  value : Json

def NoFields.message (e : NoFields) : String :=
  s!"'{e.value.typeName}' object has no attribute 'items'"

namespace Node

/-- The overrides of a reference; an absent or empty value stands for none. -/
def overrides (ref : Node) : Except NoFields (Fields Json) :=
  match Fields.get? ref.props "overrides" with
  | none => .ok []
  | some (.obj fs) => .ok fs
  | some v => if v.isTruthy then .error ⟨v⟩ else .ok []

/-- The props that a reference gives other values than its definition does; a prop without a value
counts as null. -/
def overriddenProps (ref : Node) (d : ComponentDef) : Except NoFields (List String) :=
  ref.overrides.map fun fs =>
    Text.sorted (Fields.keys (fs.filter fun e =>
      !Json.sameValue ((Fields.get? d.tree.props e.1).getD .null) e.2))

/-- The props in which a reference changes its instance. -/
def changeKeys : List String :=
  ["overrides", "styleOverrides", "descendants", "slotContent", "unresolved"]

/-- A reference that shows its definition unchanged; other nodes stay as they are. -/
def reset (n : Node) : Node :=
  if n.isReference then n.mapHead fun e => { e with props := Fields.eraseAll e.props changeKeys }
  else n

end Node
end Screenwright

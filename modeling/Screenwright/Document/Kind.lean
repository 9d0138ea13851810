import Screenwright.Json.Basic

/-! The kinds of nodes: built-in types, references to components, and types from elsewhere. -/
namespace Screenwright

/-- The node types known to the validator and to every backend. -/
inductive BuiltinType where
  | stack | grid | sectionBox | scrollArea | spacer | box
  | heading | text | image | input | link | divider | list | icon
  | card | button | form | modal | tabs | nav | dataTable
  deriving DecidableEq, Repr

namespace BuiltinType

/-- Every built-in type: layout, then content, then components. -/
def all : List BuiltinType := [
  stack, grid, sectionBox, scrollArea, spacer, box,
  heading, text, image, input, link, divider, list, icon,
  card, button, form, modal, tabs, nav, dataTable]

def name : BuiltinType → String
  | stack => "Stack" | grid => "Grid" | sectionBox => "Section" | scrollArea => "ScrollArea"
  | spacer => "Spacer" | box => "Box"
  | heading => "Heading" | text => "Text" | image => "Image" | input => "Input"
  | link => "Link" | divider => "Divider" | list => "List" | icon => "Icon"
  | card => "Card" | button => "Button" | form => "Form" | modal => "Modal"
  | tabs => "Tabs" | nav => "Nav" | dataTable => "DataTable"

def ofName? (s : String) : Option BuiltinType := all.find? (name · == s)

/-- Whether nodes of the type may have children. -/
def isContainer : BuiltinType → Bool
  | stack | grid | sectionBox | scrollArea | box | card | form | modal | tabs | nav => true
  | _ => false

@[simp] theorem ofName?_name (t : BuiltinType) : ofName? t.name = some t := by
  cases t <;> rfl

end BuiltinType

/-- The type of a node that stands for an instance of a component. -/
def referenceType : String := "ComponentRef"

/-- What the type of a node means. A reference without a usable target has no `ref`. -/
inductive NodeKind where
  | builtin (type : BuiltinType)
  | reference (ref : Option String)
  | other (tag : String)
  deriving DecidableEq, Repr

/-- The target of a reference: a text that is not empty. -/
def referenceTarget? (props : Fields Json) : Option String :=
  (props.get? "ref").bind Json.nonEmptyText?

/-- The kind of a node with the given type and props. -/
def NodeKind.classify (tag : String) (props : Fields Json) : NodeKind :=
  match BuiltinType.ofName? tag with
  | some t => .builtin t
  | none => if tag = referenceType then .reference (referenceTarget? props) else .other tag

/-- Whether nodes of a type may have children; types from elsewhere always may. -/
def acceptsChildren (tag : String) : Bool :=
  ((BuiltinType.ofName? tag).map BuiltinType.isContainer).getD true

end Screenwright

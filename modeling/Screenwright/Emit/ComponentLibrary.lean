import Screenwright.Json.Basic

/-! Component libraries: which components stand for node types, and how props change for them. -/
namespace Screenwright.Emit

/-- How one node type becomes a component: its tag, the module that exports it, and the changes of
prop values and names. -/
structure ComponentMapping where
  tag : String
  module_ : String
  rename : Fields String := []
  values : Fields (Fields String) := []

structure ComponentLibrary where
  name : String
  basePath : String
  components : Fields ComponentMapping

namespace ComponentLibrary

def shadcn : ComponentLibrary where
  name := "shadcn"
  basePath := "components/ui"
  components := [
    ("Button", { tag := "Button", module_ := "button", rename := [("intent", "variant")],
                 values := [("intent", [("primary", "default")])] }),
    ("Card", { tag := "Card", module_ := "card" }),
    ("Input", { tag := "Input", module_ := "input" }),
    ("ScrollArea", { tag := "ScrollArea", module_ := "scroll-area" }),
    ("Divider", { tag := "Separator", module_ := "separator" })]

def all : List ComponentLibrary := [shadcn]

/-- The library of a name; an unknown name means plain elements. -/
def ofName? (name : Option String) : Option ComponentLibrary :=
  name.bind fun n => all.find? (·.name == n)

def handles (l : ComponentLibrary) (type : String) : Bool := l.components.has type

/-- The name and the module that a node type imports. -/
def import? (l : ComponentLibrary) (type importAlias : String) : Option (String × String) :=
  (l.components.get? type).map fun m =>
    let root := (importAlias.toList.reverse.dropWhile (· == '/')).reverse
    (m.tag, String.ofList root ++ "/" ++ l.basePath ++ "/" ++ m.module_)

def changedValue (m : ComponentMapping) (key : String) (value : Json) : Json :=
  match value with
  | .str s => .str ((((m.values.get? key).bind (·.get? s))).getD s)
  | v => v

/-- The props of a component: values change under the old names, then the names change. -/
def transform (l : ComponentLibrary) (type : String) (props : Fields Json) : Fields Json :=
  match l.components.get? type with
  | none => props
  | some m => Fields.ofEntries (props.map fun e =>
      ((m.rename.get? e.1).getD e.1, changedValue m e.1 e.2))

end ComponentLibrary
end Screenwright.Emit

import Screenwright.Document.Node

/-! Component definitions, and the props of the nodes that stand for their instances. -/
namespace Screenwright

/-- A named tree that nodes refer to by its id. -/
structure ComponentDef where
  id : String
  name : String
  tree : Node
  slots : Option (List String)

/-- Overrides for one node inside a definition. -/
structure DescendantOverride where
  props : Option (Fields Json)
  style : Option (Fields Json)

/-- The props of a reference: its target, and what the instance changes in it. -/
structure ReferenceProps where
  ref : String
  overrides : Fields Json
  styleOverrides : Fields Json
  descendants : Fields DescendantOverride
  slotContent : Fields (List Node)
  unresolved : Option String

namespace ComponentDef

def decode : Json → Decoded ComponentDef :=
  Decode.record "ComponentDef" fun fs =>
    Decode.closed ["id", "name", "tree", "slots"] fs
      (ComponentDef.mk <$> Decode.required fs "id" Decode.text
        <*> Decode.required fs "name" Decode.text
        <*> Decode.required fs "tree" Node.decodeInside
        <*> Decode.optional fs "slots" (Decode.listOf Decode.text))

def toJson (d : ComponentDef) : Json :=
  .obj (presentFields [("id", some (.str d.id)), ("name", some (.str d.name)),
    ("tree", some d.tree.toJson), ("slots", d.slots.map fun s => .arr (s.map .str))])

end ComponentDef

namespace DescendantOverride

def decode : Json → Decoded DescendantOverride :=
  Decode.record "DescendantOverride" fun fs =>
    Decode.closed ["props", "style"] fs
      (DescendantOverride.mk <$> Decode.optional fs "props" Decode.object
        <*> Decode.optional fs "style" Decode.object)

def toJson (d : DescendantOverride) : Json :=
  .obj (presentFields [("props", d.props.map .obj), ("style", d.style.map .obj)])

end DescendantOverride

namespace ReferenceProps

/-- Reads the props of a reference; keys beyond its own are ignored. -/
def ofFields (fs : Fields Json) : Decoded ReferenceProps :=
  ReferenceProps.mk <$> Decode.required fs "ref" Decode.text
    <*> Decode.fieldOr fs "overrides" [] Decode.object
    <*> Decode.fieldOr fs "styleOverrides" [] Decode.object
    <*> Decode.fieldOr fs "descendants" [] (Decode.dictOf DescendantOverride.decode)
    <*> Decode.fieldOr fs "slotContent" [] (Decode.dictOf (Decode.listOf Node.decodeInside))
    <*> Decode.optional fs "unresolved" Decode.text

def decode : Json → Decoded ReferenceProps := Decode.record "ComponentRefProps" ofFields

def toJson (r : ReferenceProps) : Json :=
  .obj (presentFields [("ref", some (.str r.ref)), ("overrides", some (.obj r.overrides)),
    ("styleOverrides", some (.obj r.styleOverrides)),
    ("descendants", some (.obj (r.descendants.mapValues DescendantOverride.toJson))),
    ("slotContent", some (.obj (r.slotContent.mapValues fun ns => .arr (ns.map Node.toJson)))),
    ("unresolved", r.unresolved.map .str)])

end ReferenceProps
end Screenwright

import Screenwright.Document.Kind
import Screenwright.Project.Components

/-! The expansion of one reference: the tree of its definition with the changes that the reference
asks for. -/
namespace Screenwright

/-- A style with fields laid over it, a null field unsetting its property; without fields the
style stays as it is. -/
def overlaidStyle? (style : Option NodeStyle) (overrides : Fields Json) :
    Option (Option NodeStyle) :=
  if overrides.isEmpty then some style
  else
    let declared := (style.map NodeStyle.toFields).getD []
    some <$> (NodeStyle.ofFields (Fields.merge declared overrides)).toOption

/-- An element with props and style fields laid over its own, unless the style becomes malformed. -/
def Element.overlay? (props style : Fields Json) (e : Element) : Option Element :=
  (overlaidStyle? e.style style).map fun s => { e with props := Fields.merge e.props props, style := s }

/-- The element with the overrides that are given for its id. -/
def Element.overlayFor? (overrides : Fields DescendantOverride) (e : Element) : Option Element :=
  match overrides.get? e.id with
  | none => some e
  | some o => e.overlay? (o.props.getD []) (o.style.getD [])

/-- What fills the slot that an element is, if anything does. -/
def Element.filling? (content : Fields (List Node)) (e : Element) : Option (List Node) := do
  let slot ← (← Fields.get? e.props "slot").asString?
  match ← content.get? slot with
  | [] => none
  | n :: ns => some (n :: ns)

namespace Node

/-- A tree with its root element changed, if that can be done. -/
def mapHead? (f : Element → Option Element) : Node → Option Node
  | leaf e => (f e).map leaf
  | branch e cs => (f e).map (branch · cs)

mutual

/-- A tree with every element changed, if that can be done. -/
def mapElements? (f : Element → Option Element) : Node → Option Node
  | leaf e => (f e).map leaf
  | branch e cs =>
    match f e, mapElementsOf? f cs with
    | some e, some cs => some (branch e cs)
    | _, _ => none

def mapElementsOf? (f : Element → Option Element) : List Node → Option (List Node)
  | [] => some []
  | c :: cs =>
    match mapElements? f c, mapElementsOf? f cs with
    | some c, some cs => some (c :: cs)
    | _, _ => none

end

mutual

/-- A tree in which content stands below the slots that it is for. -/
def fillSlots (content : Fields (List Node)) : Node → Node
  | leaf e =>
    match e.filling? content with
    | some ns => branch e ns
    | none => leaf e
  | branch e cs =>
    match e.filling? content with
    | some ns => branch e ns
    | none => branch e (fillSlotsOf content cs)

def fillSlotsOf (content : Fields (List Node)) : List Node → List Node
  | [] => []
  | c :: cs => fillSlots content c :: fillSlotsOf content cs

end

/-- The tree of a definition as one reference shows it: overrides of the root, then those of
nodes by their ids, then slots; the root takes the id of the reference. A reference with
malformed props has no expansion. -/
def expansion? (ref : Node) (d : ComponentDef) : Option Node := do
  let r ← (ReferenceProps.ofFields ref.props).toOption
  let overlaid ← d.tree.mapHead? (Element.overlay? r.overrides r.styleOverrides)
  let overlaid ← overlaid.mapElements? (Element.overlayFor? r.descendants)
  pure ((overlaid.fillSlots r.slotContent).setId ref.id)

end Node
end Screenwright

import Screenwright.Record.Decoded

/-! Style bags: the modeled visual properties of a node with their declared values. -/
namespace Screenwright

/-- A raw style value or a token reference. -/
inductive StyleValue where
  | text (s : String)
  | int (n : Int)
  | float (x : Binary64)
  deriving DecidableEq, Repr, Inhabited

namespace StyleValue

def toJson : StyleValue → Json
  | text s => .str s
  | int n => .int n
  | float x => .float x

/-- Texts and numbers are kept as they are; booleans count as `0` and `1`. -/
def decode : Json → Decoded StyleValue
  | .str s => .ok (.text s)
  | .int n => .ok (.int n)
  | .float x => .ok (.float x)
  | .bool b => .ok (.int (if b then 1 else 0))
  | _ => .bad [⟨[.key "str"], .notString⟩, ⟨[.key "int"], .notInteger⟩,
      ⟨[.key "float"], .notNumber⟩]

end StyleValue

/-- What values a style property takes. -/
inductive StyleKind where
  | value
  | keyword (allowed : List String)
  | text
  | number
  | integer
  deriving DecidableEq, Repr

/-- The modeled style properties. -/
inductive StyleProperty where
  | fontSize | fontWeight | fontStyle | lineHeight | letterSpacing | textAlign | textDecoration
  | textTransform | color
  | width | height | minWidth | maxWidth | minHeight | maxHeight
  | paddingTop | paddingRight | paddingBottom | paddingLeft
  | marginTop | marginRight | marginBottom | marginLeft
  | backgroundColor | backgroundImage
  | borderWidth | borderColor | borderStyle | borderRadius | borderTopLeftRadius
  | borderTopRightRadius | borderBottomLeftRadius | borderBottomRightRadius
  | opacity | boxShadow
  | overflow | justifyContent | alignItems | flexWrap | gap | flexGrow | flexShrink | alignSelf
  | position | top | right | bottom | left | zIndex
  deriving DecidableEq, Repr

namespace StyleProperty

/-- Every property, in the order in which styles list them. -/
def all : List StyleProperty := [
  fontSize, fontWeight, fontStyle, lineHeight, letterSpacing, textAlign, textDecoration,
  textTransform, color,
  width, height, minWidth, maxWidth, minHeight, maxHeight,
  paddingTop, paddingRight, paddingBottom, paddingLeft,
  marginTop, marginRight, marginBottom, marginLeft,
  backgroundColor, backgroundImage,
  borderWidth, borderColor, borderStyle, borderRadius, borderTopLeftRadius,
  borderTopRightRadius, borderBottomLeftRadius, borderBottomRightRadius,
  opacity, boxShadow,
  overflow, justifyContent, alignItems, flexWrap, gap, flexGrow, flexShrink, alignSelf,
  position, top, right, bottom, left, zIndex]

def name : StyleProperty → String
  | fontSize => "fontSize" | fontWeight => "fontWeight" | fontStyle => "fontStyle"
  | lineHeight => "lineHeight" | letterSpacing => "letterSpacing" | textAlign => "textAlign"
  | textDecoration => "textDecoration" | textTransform => "textTransform" | color => "color"
  | width => "width" | height => "height" | minWidth => "minWidth" | maxWidth => "maxWidth"
  | minHeight => "minHeight" | maxHeight => "maxHeight"
  | paddingTop => "paddingTop" | paddingRight => "paddingRight"
  | paddingBottom => "paddingBottom" | paddingLeft => "paddingLeft"
  | marginTop => "marginTop" | marginRight => "marginRight"
  | marginBottom => "marginBottom" | marginLeft => "marginLeft"
  | backgroundColor => "backgroundColor" | backgroundImage => "backgroundImage"
  | borderWidth => "borderWidth" | borderColor => "borderColor" | borderStyle => "borderStyle"
  | borderRadius => "borderRadius" | borderTopLeftRadius => "borderTopLeftRadius"
  | borderTopRightRadius => "borderTopRightRadius"
  | borderBottomLeftRadius => "borderBottomLeftRadius"
  | borderBottomRightRadius => "borderBottomRightRadius"
  | opacity => "opacity" | boxShadow => "boxShadow"
  | overflow => "overflow" | justifyContent => "justifyContent" | alignItems => "alignItems"
  | flexWrap => "flexWrap" | gap => "gap" | flexGrow => "flexGrow" | flexShrink => "flexShrink"
  | alignSelf => "alignSelf" | position => "position" | top => "top" | right => "right"
  | bottom => "bottom" | left => "left" | zIndex => "zIndex"

def kind : StyleProperty → StyleKind
  | fontStyle => .keyword ["normal", "italic"]
  | textAlign => .keyword ["left", "center", "right", "justify"]
  | textDecoration => .keyword ["none", "underline", "line-through"]
  | textTransform => .keyword ["none", "uppercase", "lowercase", "capitalize"]
  | borderStyle => .keyword ["none", "solid", "dashed", "dotted"]
  | overflow => .keyword ["visible", "hidden", "auto", "scroll"]
  | justifyContent =>
    .keyword ["flex-start", "center", "flex-end", "space-between", "space-around"]
  | alignItems => .keyword ["flex-start", "center", "flex-end", "stretch", "baseline"]
  | flexWrap => .keyword ["nowrap", "wrap"]
  | alignSelf => .keyword ["auto", "flex-start", "center", "flex-end", "stretch"]
  | position => .keyword ["static", "relative", "absolute", "fixed", "sticky"]
  | backgroundImage => .text
  | opacity | flexGrow | flexShrink => .number
  | zIndex => .integer
  | _ => .value

def ofName? (s : String) : Option StyleProperty := all.find? (name · == s)

end StyleProperty

/-- The value of a property of the given kind. -/
def StyleKind.decode : StyleKind → Json → Decoded StyleValue
  | value => StyleValue.decode
  | keyword allowed => fun j => .text <$> Decode.oneOf allowed j
  | text => fun j => .text <$> Decode.text j
  | number => fun j => .float <$> Decode.number j
  | integer => fun j => .int <$> Decode.integer j

/-- The declared properties of a node, in the order of `StyleProperty.all`. -/
structure NodeStyle where
  declared : List (StyleProperty × StyleValue)
  deriving DecidableEq, Repr, Inhabited

namespace NodeStyle

def empty : NodeStyle := ⟨[]⟩

def get? (s : NodeStyle) (p : StyleProperty) : Option StyleValue := s.declared.lookup p

/-- The style with the values of a function. -/
def ofFunction (f : StyleProperty → Option StyleValue) : NodeStyle :=
  ⟨StyleProperty.all.filterMap fun p => (f p).map (p, ·)⟩

/-- The declared properties by name. -/
def toFields (s : NodeStyle) : Fields Json := s.declared.map fun e => (e.1.name, e.2.toJson)

def toJson (s : NodeStyle) : Json := .obj s.toFields

def decodeProperties (fs : Fields Json) :
    List StyleProperty → Decoded (List (StyleProperty × StyleValue))
  | [] => .ok []
  | p :: ps =>
    (fun v rest => match v with
      | some v => (p, v) :: rest
      | none => rest) <$> Decode.optional fs p.name p.kind.decode <*> decodeProperties fs ps

/-- Reads a style from the fields of an object. -/
def ofFields (fs : Fields Json) : Decoded NodeStyle :=
  Decode.closed (StyleProperty.all.map StyleProperty.name) fs
    (NodeStyle.mk <$> decodeProperties fs StyleProperty.all)

def decode : Json → Decoded NodeStyle := Decode.record "NodeStyle" ofFields

end NodeStyle

/-- Style overrides on narrower screens. -/
structure ResponsiveStyle where
  tablet : Option NodeStyle
  mobile : Option NodeStyle
  deriving DecidableEq, Repr, Inhabited

/-- Fields of a record whose absent values are left out. -/
def presentFields (fs : List (String × Option Json)) : Fields Json :=
  fs.filterMap fun e => e.2.map (e.1, ·)

namespace ResponsiveStyle

/-- Reads overrides in which `room` more records may be nested. -/
def decodeWithin (room : Nat) : Json → Decoded ResponsiveStyle :=
  Decode.record "ResponsiveStyle" fun fs =>
    Decode.closed ["tablet", "mobile"] fs
      (ResponsiveStyle.mk <$> Decode.optional fs "tablet" (Decode.within room NodeStyle.decode)
        <*> Decode.optional fs "mobile" (Decode.within room NodeStyle.decode))

def decode : Json → Decoded ResponsiveStyle := decodeWithin Decode.maxDepth

def toJson (r : ResponsiveStyle) : Json :=
  .obj (presentFields [("tablet", r.tablet.map NodeStyle.toJson),
    ("mobile", r.mobile.map NodeStyle.toJson)])

end ResponsiveStyle
end Screenwright

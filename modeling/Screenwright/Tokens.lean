import Screenwright.Document.Style
import Screenwright.Json.Text

/-! Design tokens: named values that styles refer to, and the scales made from them. -/
namespace Screenwright

/-- The value of a token; keys beyond its own are kept. -/
structure TokenValue where
  value : StyleValue
  type : Option String
  extras : Fields Json

abbrev TokenGroup := Fields TokenValue

structure Typography where
  fontFamily : TokenGroup := []
  fontSize : TokenGroup := []
  fontWeight : TokenGroup := []
  lineHeight : TokenGroup := []
  letterSpacing : TokenGroup := []

/-- A token table: the groups that backends use, and the whole document for references. -/
structure Tokens where
  spacing : TokenGroup
  size : TokenGroup
  color : TokenGroup
  typography : Typography
  borderRadius : TokenGroup
  shadow : TokenGroup
  raw : Fields Json

namespace TokenValue

/-- Tokens have no second spellings of their field names. -/
def decode : Json → Decoded TokenValue :=
  Decode.record "TokenValue" fun fs =>
    (fun v t => ⟨v, t, fs.eraseAll ["value", "type"]⟩)
      <$> Decode.required fs "value" StyleValue.decode <*> Decode.optional fs "type" Decode.text

def toJson (t : TokenValue) : Json :=
  .obj ([("value", t.value.toJson), ("type", (t.type.map Json.str).getD .null)] ++ t.extras)

end TokenValue

namespace Tokens

/-- Whether a value has the form of a token: an object with a text, number or boolean value. -/
def isLeaf (j : Json) : Bool :=
  match j.get? "value" with
  | some (.str _) | some (.int _) | some (.float _) | some (.bool _) => true
  | _ => false

/-- The tokens directly in a group. -/
def leaves (group : Option Json) : Fields Json :=
  match group with
  | some (.obj fs) => fs.filter fun e => isLeaf e.2
  | _ => []

def decodeGroup (fs : Fields Json) (name : String) : Decoded TokenGroup :=
  (Decoded.entries TokenValue.decode (leaves (fs.get? name))).under (.key name)

def decodeTypography (fs : Fields Json) : Decoded Typography :=
  Typography.mk <$> decodeGroup fs "fontFamily" <*> decodeGroup fs "fontSize"
    <*> decodeGroup fs "fontWeight" <*> decodeGroup fs "lineHeight"
    <*> decodeGroup fs "letterSpacing"

/-- The table of a token document. Groups deeper down are reached through references only. -/
def ofDocument (fs : Fields Json) : Decoded Tokens :=
  (fun spacing size color typography borderRadius shadow =>
      ⟨spacing, size, color, typography, borderRadius, shadow, fs⟩)
    <$> decodeGroup fs "spacing" <*> decodeGroup fs "size" <*> decodeGroup fs "color"
    <*> (match fs.get? "typography" with
      | some (.obj gs) => (decodeTypography gs).under (.key "typography")
      | _ => .ok {})
    <*> decodeGroup fs "borderRadius" <*> decodeGroup fs "shadow"

def groupJson (g : TokenGroup) : Json := .obj (g.mapValues TokenValue.toJson)

def toJson (t : Tokens) : Json :=
  .obj [("spacing", groupJson t.spacing), ("size", groupJson t.size), ("color", groupJson t.color),
    ("typography", .obj [("fontFamily", groupJson t.typography.fontFamily),
      ("fontSize", groupJson t.typography.fontSize),
      ("fontWeight", groupJson t.typography.fontWeight),
      ("lineHeight", groupJson t.typography.lineHeight),
      ("letterSpacing", groupJson t.typography.letterSpacing)]),
    ("borderRadius", groupJson t.borderRadius), ("shadow", groupJson t.shadow),
    ("raw", .obj t.raw)]

/-- A text that refers to a token: a dollar sign and a path after it. -/
def reference? (s : String) : Option String :=
  match s.toList with
  | '$' :: c :: rest => some (String.ofList (c :: rest))
  | _ => none

/-- The text or number that a value is; booleans are neither. -/
def plainValue? : Json → Option StyleValue
  | .str s => some (.text s)
  | .int n => some (.int n)
  | .float x => some (.float x)
  | _ => none

/-- The value below a path of keys. -/
def descend (j : Json) : List String → Option Json
  | [] => some j
  | k :: ks => (j.get? k).bind (descend · ks)

/-- The value at the end of a path: a plain one, or the value of a token. -/
def leafValue? (j : Json) : Option StyleValue :=
  match j with
  | .obj fs => (Fields.get? fs "value").bind plainValue?
  | j => plainValue? j

def segments (path : String) : List String := (path.toList.splitOn '.').map String.ofList

/-- The value that a dotted path has in the whole table. -/
def lookup (t : Tokens) (path : String) : Option StyleValue :=
  (descend (.obj t.raw) (segments path)).bind leafValue?

end Tokens

/-- The value of a dotted path, if there is a table. -/
def lookupToken (path : String) (tokens : Option Tokens) : Option StyleValue :=
  tokens.bind (·.lookup path)

/-- A value with its reference replaced; a reference that leads nowhere stays. -/
def resolveValue (v : StyleValue) (tokens : Option Tokens) : StyleValue :=
  match v with
  | .text s =>
    match Tokens.reference? s with
    | some path => (lookupToken path tokens).getD v
    | none => v
  | v => v

/-- A value with its reference replaced; a reference that leads nowhere is dropped. -/
def resolveValue? (v : StyleValue) (tokens : Option Tokens) : Option StyleValue :=
  match v with
  | .text s =>
    match Tokens.reference? s with
    | some path => lookupToken path tokens
    | none => some v
  | v => some v

/-- The declared properties with their references replaced, those that lead nowhere left out. -/
def resolveStyle (style : Option NodeStyle) (tokens : Option Tokens) :
    List (StyleProperty × StyleValue) :=
  match style with
  | none => []
  | some s => s.declared.filterMap fun e => (resolveValue? e.2 tokens).map (e.1, ·)

/-- The named scales and values that backends use. -/
structure TokenMaps where
  gap : Fields String
  size : Fields String
  colors : Fields String
  fontSizes : Fields String
  radii : Fields String
  shadows : Fields String

namespace TokenMaps

def defaultGap : Fields String :=
  [("xs", "1"), ("sm", "2"), ("md", "4"), ("lg", "6"), ("xl", "8")]

def defaultSize : Fields String :=
  [("xs", "2"), ("sm", "4"), ("md", "6"), ("lg", "8"), ("xl", "12")]

def texts (g : TokenGroup) : Fields String := g.mapValues fun t => t.value.toJson.text

/-- The groups of a table laid over the default scales. -/
def ofTokens : Option Tokens → TokenMaps
  | none => ⟨defaultGap, defaultSize, [], [], [], []⟩
  | some t => ⟨defaultGap.merge (texts t.spacing), defaultSize.merge (texts t.size),
      texts t.color, texts t.typography.fontSize, texts t.borderRadius, texts t.shadow⟩

/-- Whether a scale differs from its default. -/
def isCustomized (m : TokenMaps) : Bool := m.gap != defaultGap || m.size != defaultSize

end TokenMaps

/-- The kinds of tokens that can be picked by name. -/
inductive TokenCategory where
  | spacing | size | color | borderRadius | shadow | fontSize
  deriving DecidableEq, Repr

namespace TokenCategory

def all : List TokenCategory := [spacing, size, color, borderRadius, shadow, fontSize]

def name : TokenCategory → String
  | spacing => "spacing"
  | size => "size"
  | color => "color"
  | borderRadius => "borderRadius"
  | shadow => "shadow"
  | fontSize => "fontSize"

def ofName? (s : String) : Option TokenCategory := all.find? (name · == s)

def group (c : TokenCategory) (t : Tokens) : TokenGroup :=
  match c with
  | spacing => t.spacing
  | size => t.size
  | color => t.color
  | borderRadius => t.borderRadius
  | shadow => t.shadow
  | fontSize => t.typography.fontSize

/-- The names to pick from; without a table the two scales still have their steps. -/
def names (c : TokenCategory) : Option Tokens → List String
  | some t => (c.group t).keys
  | none =>
    match c with
    | spacing | size => ["xs", "sm", "md", "lg", "xl"]
    | _ => []

end TokenCategory
end Screenwright

import Screenwright.Document.Style

/-! What a node does on events, when it is visible, and where its rows come from. -/
namespace Screenwright

inductive ClickAction where
  | navigate | toggleVisibility | custom
  deriving DecidableEq, Repr

namespace ClickAction

def all : List ClickAction := [navigate, toggleVisibility, custom]

def name : ClickAction → String
  | navigate => "navigate"
  | toggleVisibility => "toggleVisibility"
  | custom => "custom"

end ClickAction

inductive ChangeAction where
  | setState | custom
  deriving DecidableEq, Repr

namespace ChangeAction

def all : List ChangeAction := [setState, custom]

def name : ChangeAction → String
  | setState => "setState"
  | custom => "custom"

end ChangeAction

inductive VisibilityOperator where
  | eq | neq | truthy
  deriving DecidableEq, Repr

namespace VisibilityOperator

def all : List VisibilityOperator := [eq, neq, truthy]

def name : VisibilityOperator → String
  | eq => "eq"
  | neq => "neq"
  | truthy => "truthy"

end VisibilityOperator

/-- What a click does. -/
structure ClickInteraction where
  action : ClickAction
  target : Option String
  code : Option String
  deriving DecidableEq, Repr

/-- What a change of an input does. -/
structure ChangeInteraction where
  action : ChangeAction
  target : Option String
  code : Option String
  deriving DecidableEq, Repr

/-- The node is shown only while the state satisfies the test. -/
structure VisibilityRule where
  state : String
  operator : VisibilityOperator
  value : Option String
  deriving DecidableEq, Repr

structure Interactions where
  onClick : Option ClickInteraction
  onChange : Option ChangeInteraction
  visibleWhen : Option VisibilityRule
  deriving DecidableEq, Repr

def ClickInteraction.decode : Json → Decoded ClickInteraction :=
  Decode.record "ClickInteraction" fun fs =>
    Decode.closed ["action", "target", "code"] fs
      (ClickInteraction.mk <$> Decode.required fs "action" (Decode.named ClickAction.all ClickAction.name)
        <*> Decode.optional fs "target" Decode.text <*> Decode.optional fs "code" Decode.text)

def ClickInteraction.toJson (c : ClickInteraction) : Json :=
  .obj (presentFields [("action", some (.str c.action.name)), ("target", c.target.map .str),
    ("code", c.code.map .str)])

def ChangeInteraction.decode : Json → Decoded ChangeInteraction :=
  Decode.record "ChangeInteraction" fun fs =>
    Decode.closed ["action", "target", "code"] fs
      (ChangeInteraction.mk <$> Decode.required fs "action" (Decode.named ChangeAction.all ChangeAction.name)
        <*> Decode.optional fs "target" Decode.text <*> Decode.optional fs "code" Decode.text)

def ChangeInteraction.toJson (c : ChangeInteraction) : Json :=
  .obj (presentFields [("action", some (.str c.action.name)), ("target", c.target.map .str),
    ("code", c.code.map .str)])

def VisibilityRule.decode : Json → Decoded VisibilityRule :=
  Decode.record "VisibilityRule" fun fs =>
    Decode.closed ["state", "operator", "value"] fs
      (VisibilityRule.mk <$> Decode.required fs "state" Decode.text
        <*> Decode.required fs "operator" (Decode.named VisibilityOperator.all VisibilityOperator.name)
        <*> Decode.optional fs "value" Decode.text)

def VisibilityRule.toJson (r : VisibilityRule) : Json :=
  .obj (presentFields [("state", some (.str r.state)), ("operator", some (.str r.operator.name)),
    ("value", r.value.map .str)])

def Interactions.decode : Json → Decoded Interactions :=
  Decode.record "Interactions" fun fs =>
    Decode.closed ["onClick", "onChange", "visibleWhen"] fs
      (Interactions.mk <$> Decode.optional fs "onClick" ClickInteraction.decode
        <*> Decode.optional fs "onChange" ChangeInteraction.decode
        <*> Decode.optional fs "visibleWhen" VisibilityRule.decode)

def Interactions.toJson (i : Interactions) : Json :=
  .obj (presentFields [("onClick", i.onClick.map ClickInteraction.toJson),
    ("onChange", i.onChange.map ChangeInteraction.toJson),
    ("visibleWhen", i.visibleWhen.map VisibilityRule.toJson)])

inductive SourceType where
  | static | api | mock
  deriving DecidableEq, Repr

namespace SourceType

def all : List SourceType := [static, api, mock]

def name : SourceType → String
  | static => "static"
  | api => "api"
  | mock => "mock"

end SourceType

/-- The rows bound to a list or table: `mapping` gives the source field of each display key. -/
structure DataSource where
  type : SourceType
  url : Option String
  data : Option (List Json)
  mapping : Option (Fields String)

def DataSource.decode : Json → Decoded DataSource :=
  Decode.record "DataSource" fun fs =>
    Decode.closed ["type", "url", "data", "mapping"] fs
      (DataSource.mk <$> Decode.required fs "type" (Decode.named SourceType.all SourceType.name)
        <*> Decode.optional fs "url" Decode.text
        <*> Decode.optional fs "data" (Decode.listOf Decode.any)
        <*> Decode.optional fs "mapping" (Decode.dictOf Decode.text))

def DataSource.toJson (d : DataSource) : Json :=
  .obj (presentFields [("type", some (.str d.type.name)), ("url", d.url.map .str),
    ("data", d.data.map .arr), ("mapping", d.mapping.map fun m => .obj (m.mapValues .str))])

end Screenwright

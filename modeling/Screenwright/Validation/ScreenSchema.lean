import Screenwright.Document.Style
import Screenwright.Document.Interaction
import Screenwright.Validation.PropTable
import Screenwright.Validation.Schema

/-! The schema of screen documents, made from the prop tables and the style properties. -/
namespace Screenwright.ScreenSchema
open Schema

def typed (t : SchemaType) : Rule := .type true [t]

def ofType (t : SchemaType) : Schema := .rules [typed t]

def title (s : String) : Rule := .remark "title" (.str s)

/-- The title of a field: its name in small letters after a capital. -/
def fieldTitle (name : String) : Rule :=
  match name.toList with
  | [] => title ""
  | c :: cs => title (String.ofList (c.toUpper :: cs.map Char.toLower))

/-- A field that may be null and is null when it is absent. -/
def nullable (alternatives : List Schema) (titles : List Rule) : Schema :=
  .rules (.anyOf (alternatives ++ [ofType .null]) :: .remark "default" .null :: titles)

def keywordRules (allowed : List String) : List Rule := [.options (allowed.map .str), typed .string]

/-- What a style property of a kind may be, null aside. -/
def styleAlternatives : StyleKind → List Schema
  | .value => [ofType .string, ofType .integer, ofType .number]
  | .keyword allowed => [.rules (keywordRules allowed)]
  | .text => [ofType .string]
  | .number => [ofType .number]
  | .integer => [ofType .integer]

/-- A record that admits no other properties than its own. -/
def closedRecord (name : String) (description : Option String) (required : List String)
    (fields : List (String × Schema)) : Schema :=
  .rules (([.additionalProperties .refuse] : List Rule) ++
    description.toList.map (fun d => (.remark "description" (.str d) : Rule)) ++
    ([.properties fields] : List Rule) ++
    (if required.isEmpty then [] else [.required required] : List Rule) ++
    [title name, typed .object])

def optionalText (name : String) : String × Schema :=
  (name, nullable [ofType .string] [fieldTitle name])

def optionalRef (name target : String) : String × Schema :=
  (name, nullable [.rules [.ref target]] [])

def keywordField (name : String) (allowed : List String) : String × Schema :=
  (name, .rules (keywordRules allowed ++ [fieldTitle name]))

def nodeStyle : Schema :=
  closedRecord "NodeStyle" "Typed visual property bag. Only these properties are modeled." []
    (StyleProperty.all.map fun p =>
      (p.name, nullable (styleAlternatives p.kind) [fieldTitle p.name]))

def responsiveStyle : Schema :=
  closedRecord "ResponsiveStyle" "Partial style overrides applied at narrower breakpoints." []
    [optionalRef "tablet" "NodeStyle", optionalRef "mobile" "NodeStyle"]

def changeInteraction : Schema :=
  closedRecord "ChangeInteraction" none ["action"]
    [keywordField "action" (ChangeAction.all.map ChangeAction.name), optionalText "target",
      optionalText "code"]

def clickInteraction : Schema :=
  closedRecord "ClickInteraction" none ["action"]
    [keywordField "action" (ClickAction.all.map ClickAction.name), optionalText "target",
      optionalText "code"]

def visibilityRule : Schema :=
  closedRecord "VisibilityRule" "Render the node only while `state` satisfies `operator`/`value`."
    ["state", "operator"]
    [("state", .rules [fieldTitle "state", typed .string]),
      keywordField "operator" (VisibilityOperator.all.map VisibilityOperator.name),
      optionalText "value"]

def interactions : Schema :=
  closedRecord "Interactions" none []
    [optionalRef "onClick" "ClickInteraction", optionalRef "onChange" "ChangeInteraction",
      optionalRef "visibleWhen" "VisibilityRule"]

def dataSource : Schema :=
  closedRecord "DataSource" "Binding of a data-driven node (List, DataTable) to rows." ["type"]
    [keywordField "type" (SourceType.all.map SourceType.name), optionalText "url",
      ("data", nullable [.rules [.items (.rules []), typed .array]] [fieldTitle "data"]),
      ("mapping",
        nullable [.rules [.additionalProperties (ofType .string), typed .object]]
          [fieldTitle "mapping"])]

def propType : PropType → SchemaType
  | .string => .string
  | .number => .number
  | .boolean => .boolean
  | .array => .array

/-- The schema of one prop. -/
def prop (d : PropDef) : Schema :=
  .rules (typed (propType d.type) :: d.options.toList.map .options)

def requiredProps (table : PropTable) : List String := Fields.keys (table.filter (·.2.required))

/-- The schema of the props that a table admits. -/
def props (table : PropTable) : Schema :=
  .rules ([typed .object, .properties (table.map fun e => (e.1, prop e.2)),
      .additionalProperties .refuse] ++
    if requiredProps table = [] then [] else [.required (requiredProps table)])

def propsName (t : BuiltinType) : String := "props." ++ t.name

/-- The rule that binds the props of the nodes of one type. -/
def typeRule (type : String) (consequence : List Rule) : Schema :=
  .rules [
    .condition (.rules [.properties [("type", .rules [.const (.str type)])], .required ["type"]]),
    .consequence (.rules consequence)]

def builtinRule (t : BuiltinType) : Schema :=
  typeRule t.name [.properties [("props", .rules [.ref (propsName t)])]]

def nodeList : Schema := .rules [typed .array, .items (.rules [.ref "node"])]

def referenceRule : Schema :=
  typeRule referenceType [
    .required ["props"],
    .properties [("props", .rules [
      typed .object,
      .required ["ref"],
      .properties [
        ("ref", .rules [typed .string, .minLength 1]),
        ("overrides", ofType .object),
        ("styleOverrides", ofType .object),
        ("descendants", .rules [typed .object, .additionalProperties (ofType .object)]),
        ("slotContent", .rules [typed .object, .additionalProperties nodeList])]])]]

/-- A text that is not blank. -/
def inkText : Schema := .rules [typed .string, .pattern "\\S"]

def node : Schema :=
  .rules [
    typed .object,
    .required ["id", "type"],
    .properties [
      ("id", inkText),
      ("type", inkText),
      ("props", ofType .object),
      ("children", nodeList),
      ("style", .rules [.ref "NodeStyle"]),
      ("responsive", .rules [.ref "ResponsiveStyle"]),
      ("interactions", .rules [.ref "Interactions"]),
      ("dataSource", .rules [.ref "DataSource"])],
    .additionalProperties .refuse,
    .allOf (BuiltinType.all.map builtinRule ++ [referenceRule])]

def definitions : List (String × Schema) :=
  [("NodeStyle", nodeStyle), ("ResponsiveStyle", responsiveStyle),
    ("ChangeInteraction", changeInteraction), ("ClickInteraction", clickInteraction),
    ("VisibilityRule", visibilityRule), ("Interactions", interactions),
    ("DataSource", dataSource)] ++
  BuiltinType.all.map (fun t => (propsName t, props (PropTable.allowed t))) ++
  [("node", node)]

/-- The schema of a whole document. -/
def document : Schema :=
  .rules [
    .remark "$schema" (.str "https://json-schema.org/draft/2020-12/schema"),
    .remark "$id" (.str "https://screenspec.dev/schema/screen.schema.json"),
    title "ScreenSpec",
    typed .object,
    .required ["version", "route", "tree"],
    .properties [
      ("version", .rules [.const (.int 1)]),
      ("route", .rules [typed .string, .pattern "^/"]),
      ("meta", ofType .object),
      ("tree", .rules [.ref "node"])],
    .additionalProperties .refuse,
    .definitions definitions]

end Screenwright.ScreenSchema

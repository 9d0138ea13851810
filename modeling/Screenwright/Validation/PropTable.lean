import Screenwright.Document.Kind
import Screenwright.Json.Equality
import Screenwright.Json.Text
import Screenwright.Validation.Issue

/-! Prop tables: the props that nodes of each built-in type may have, and the check of props
against a table. -/
namespace Screenwright

inductive PropType where
  | string | number | boolean | array
  deriving DecidableEq, Repr

namespace PropType

def all : List PropType := [string, number, boolean, array]

def name : PropType → String
  | string => "string"
  | number => "number"
  | boolean => "boolean"
  | array => "array"

/-- Whether a value is of the type; booleans are no numbers. -/
def admits : PropType → Json → Bool
  | string, .str _ => true
  | number, .int _ | number, .float _ => true
  | boolean, .bool _ => true
  | array, .arr _ => true
  | _, _ => false

end PropType

/-- The declaration of a prop: its type, whether it must be given, the values it is restricted to,
and the value with which an editor starts. -/
structure PropDef where
  type : PropType
  required : Bool := false
  options : Option (List Json) := none
  default : Option Json := none

abbrev PropTable := Fields PropDef

namespace PropDef

def isOption (options : List Json) (value : Json) : Bool := options.any (Json.sameValue value ·)

/-- What is wrong with a value of the prop, if anything. -/
def check (d : PropDef) (value : Json) : Option String :=
  if !d.type.admits value then some ("must be of type " ++ d.type.name)
  else match d.options with
    | none => none
    | some options =>
      if isOption options value then none
      else some ("must be one of " ++ ", ".intercalate (options.map Json.shown))

def ofTexts (options : List String) (default : Option String) : PropDef :=
  { type := .string, options := some (options.map .str), default := default.map .str }

def text (default : Option String) : PropDef := { type := .string, default := default.map .str }

end PropDef

namespace PropTable

def scale : List String := ["xs", "sm", "md", "lg", "xl"]

/-- The props that every node may have. -/
def common : PropTable := [("slot", .text none), ("className", .text none)]

/-- The props of a type beside the common ones. -/
def own : BuiltinType → PropTable
  | .stack => [
    ("gap", .ofTexts scale "md"),
    ("padding", .ofTexts scale none),
    ("direction", .ofTexts ["column", "row"] "column")]
  | .grid => [
    ("columns", { type := .number, default := some (.int 2) }),
    ("gap", .ofTexts scale "md")]
  | .sectionBox => [("padding", .ofTexts scale none)]
  | .scrollArea => [("height", .text "auto")]
  | .spacer => [("size", .ofTexts scale "md")]
  | .box => []
  | .heading => [
    ("text", .text "Heading"),
    ("level", { type := .number, options := some ([1, 2, 3, 4, 5, 6].map Json.int),
                default := some (.int 1) }),
    ("variant", .ofTexts ["", "hero", "title", "subtitle", "section"] none),
    ("fontFamily", .text none)]
  | .text => [
    ("text", .text "Text content"),
    ("variant", .ofTexts ["", "body", "muted"] none),
    ("fontFamily", .text none)]
  | .image => [
    ("src", { type := .string, required := true }),
    ("alt", { type := .string, required := true }),
    ("width", { type := .number }),
    ("height", { type := .number })]
  | .input => [
    ("placeholder", .text none),
    ("type", .ofTexts ["text", "email", "password", "number", "tel", "url"] "text"),
    ("label", .text none)]
  | .link => [("href", { type := .string, required := true }), ("text", .text none)]
  | .divider => []
  | .list => [
    ("items", { type := .array, default := some (.arr []) }),
    ("ordered", { type := .boolean, default := some (.bool false) })]
  | .icon => [
    ("name", .text "Star"),
    ("size", { type := .number, default := some (.int 24) }),
    ("color", .text none)]
  | .card => [("padding", .ofTexts scale "md")]
  | .button => [
    ("label", .text "Button"),
    ("intent", .ofTexts
      ["default", "primary", "secondary", "destructive", "outline", "ghost", "link"] "primary"),
    ("size", .ofTexts ["default", "xs", "sm", "lg", "icon"] "default")]
  | .form => [("action", .text none), ("method", .ofTexts ["post", "get"] "post")]
  | .modal => [
    ("title", .text "Dialog"),
    ("open", { type := .boolean, default := some (.bool true) })]
  | .tabs => [
    ("tabs", { type := .array, default := some (.arr [.str "Tab 1", .str "Tab 2"]) })]
  | .nav => [
    ("orientation", .ofTexts ["horizontal", "vertical"] "horizontal"),
    ("items", { type := .array, default := some (.arr [.str "Home|/", .str "About|/about"]) })]
  | .dataTable => [
    ("columns", { type := .array,
                  default := some (.arr [.str "name|Name", .str "email|Email"]) }),
    ("rows", { type := .array, default := some (.arr []) })]

/-- Every prop that a built-in type accepts. -/
def allowed (t : BuiltinType) : PropTable := common.merge (own t)

/-- The props of a new node of a type. -/
def defaults (t : BuiltinType) : Fields Json :=
  (own t).filterMap fun e => e.2.default.map (e.1, ·)

/-- The required props that are missing. -/
def missing (table : PropTable) (props : Fields Json) : List String :=
  Fields.keys (table.filter fun e => e.2.required && !props.has e.1)

/-- What is wrong with one given prop, if anything; unknown props are refused. -/
def checkEntry (table : PropTable) (name : String) (value : Json) : Option String :=
  match table.get? name with
  | none => some "is not an allowed prop"
  | some d => d.check value

/-- Every issue of the props of a node at a path: missing props in the order of the table, then
the given props in their own order. -/
def check (table : PropTable) (props : Fields Json) (path : String) : List Issue :=
  (table.missing props).map (fun name =>
      ⟨path ++ ".props", s!"missing required prop '{name}'"⟩) ++
    props.filterMap fun e =>
      (table.checkEntry e.1 e.2).map fun message => ⟨s!"{path}.props.{e.1}", message⟩

end PropTable
end Screenwright

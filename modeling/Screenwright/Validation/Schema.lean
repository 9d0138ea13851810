import Screenwright.Json.Equality
import Screenwright.Json.Text
import Screenwright.Record.Fault
import Screenwright.Text.Blank
import Screenwright.Text.Sorted

/-! JSON schemas: rules as data, their document form, and the violations of a value listed in the
order of the rules. -/
namespace Screenwright

/-- The types that a schema tells apart. -/
inductive SchemaType where
  | null | boolean | integer | number | string | array | object
  deriving DecidableEq, Repr

namespace SchemaType

def all : List SchemaType := [null, boolean, integer, number, string, array, object]

def name : SchemaType → String
  | null => "null"
  | boolean => "boolean"
  | integer => "integer"
  | number => "number"
  | string => "string"
  | array => "array"
  | object => "object"

def ofName? (s : String) : Option SchemaType := all.find? (name · == s)

/-- Whether a value is of a type. Integral numbers are integers however they are written, and
booleans are no numbers. -/
def admits : SchemaType → Json → Bool
  | null, .null => true
  | boolean, .bool _ => true
  | integer, .int _ | number, .int _ | number, .float _ => true
  | integer, .float x => x.toInt?.isSome
  | string, .str _ => true
  | array, .arr _ => true
  | object, .obj _ => true
  | _, _ => false

end SchemaType

/-- A rule of a schema, over the schemas `σ` of its parts. -/
inductive SchemaRule (σ : Type) where
  /-- Says nothing about values. -/
  | remark (key : String) (value : Json)
  /-- The list form is kept apart from a single type. -/
  | type (single : Bool) (types : List SchemaType)
  | required (names : List String)
  | properties (schemas : List (String × σ))
  | additionalProperties (schema : σ)
  | items (schema : σ)
  | options (values : List Json)
  | const (value : Json)
  | pattern (text : String)
  | minLength (bound : Nat)
  | anyOf (schemas : List σ)
  | allOf (schemas : List σ)
  | condition (schema : σ)
  | consequence (schema : σ)
  | ref (name : String)
  | definitions (schemas : List (String × σ))

/-- A schema accepts or refuses every value, or has rules. -/
inductive Schema where
  | accept
  | refuse
  | rules (rs : List (SchemaRule Schema))

abbrev Schema.Rule := SchemaRule Schema

/-- A violated rule at a place in the value. -/
structure Violation where
  place : List Place
  message : String
  deriving DecidableEq, Repr

namespace Schema

/-- Whether a text has a match of a pattern: some character that is not blank, or a slash at the
start. No other pattern refuses a text. -/
def matchesPattern (pattern text : String) : Bool :=
  if pattern = "\\S" then Text.hasInk text
  else if pattern = "^/" then text.toList.head? == some '/'
  else true

/-- The schema of each named property among the rules. -/
def propertySchemas (rs : List Rule) : List (String × Schema) :=
  rs.flatMap fun
    | .properties schemas => schemas
    | _ => []

/-- The properties of an object that the rules do not name. -/
def unnamedProperties (rs : List Rule) (fs : Fields Json) : Fields Json :=
  fs.filter fun e => !(Fields.keys (propertySchemas rs)).contains e.1

def definitions (s : Schema) : List (String × Schema) :=
  match s with
  | .rules rs => rs.flatMap fun
    | .definitions schemas => schemas
    | _ => []
  | _ => []

/-- The consequence beside a condition. -/
def consequence? (rs : List Rule) : Option Schema :=
  rs.findSome? fun
    | .consequence s => some s
    | _ => none

def unexpected (names : List String) : String :=
  let verb := if names.length = 1 then "was" else "were"
  let shown := ", ".intercalate (names.map Text.show_)
  s!"Additional properties are not allowed ({shown} {verb} unexpected)"

/-- The violation of a rule that looks at the value alone. -/
def simpleViolation? (r : Rule) (value : Json) : Option String :=
  match r, value with
  | .type _ types, value =>
    if types.any (·.admits value) then none
    else
      let names := types.map fun t => Text.show_ t.name
      some (value.shown ++ " is not of type " ++ ", ".intercalate names)
  | .options values, value =>
    if values.any (Json.schemaEq · value) then none
    else some s!"{value.shown} is not one of {(Json.arr values).shown}"
  | .const expected, value =>
    if Json.schemaEq value expected then none else some s!"{expected.shown} was expected"
  | .pattern p, .str s =>
    if matchesPattern p s then none else some s!"{value.shown} does not match {Text.show_ p}"
  | .minLength bound, .str s =>
    if bound ≤ s.length then none
    else some (value.shown ++ if bound = 1 then " should be non-empty" else " is too short")
  | _, _ => none

/-- All violations of a value, rule by rule and depth first. `fuel` bounds the depth of the
recursion, in which every reference to a definition counts. -/
def violations (defs : List (String × Schema)) : Nat → Schema → Json → List Violation
  | 0, _, _ => []
  | _ + 1, .accept, _ => []
  | _ + 1, .refuse, value => [⟨[], s!"False schema does not allow {value.shown}"⟩]
  | fuel + 1, .rules rs, value => rs.flatMap fun r =>
    let part := fun (p : Place) (s : Schema) (v : Json) =>
      (violations defs fuel s v).map fun e => { e with place := p :: e.place }
    match r, value with
    | .required names, .obj fs =>
      (names.filter (!Fields.has fs ·)).map fun name => ⟨[], s!"{Text.show_ name} is a required property"⟩
    | .properties schemas, .obj fs => schemas.flatMap fun e =>
      match Fields.get? fs e.1 with
      | some v => part (.key e.1) e.2 v
      | none => []
    | .additionalProperties s, .obj fs =>
      let extra := unnamedProperties rs fs
      match s with
      | .refuse =>
        if extra.isEmpty then [] else [⟨[], unexpected (Text.sorted extra.keys)⟩]
      | s => extra.flatMap fun e => part (.key e.1) s e.2
    | .items s, .arr xs => xs.zipIdx.flatMap fun e => part (.index e.2) s e.1
    | .anyOf schemas, value =>
      if schemas.any fun s => (violations defs fuel s value).isEmpty then []
      else [⟨[], s!"{value.shown} is not valid under any of the given schemas"⟩]
    | .allOf schemas, value => schemas.flatMap fun s => violations defs fuel s value
    | .condition test, value =>
      if (violations defs fuel test value).isEmpty then
        match consequence? rs with
        | some s => violations defs fuel s value
        | none => []
      else []
    | .ref name, value =>
      match defs.lookup name with
      | some s => violations defs fuel s value
      | none => []
    | r, value => (simpleViolation? r value).toList.map (⟨[], ·⟩)

mutual

/-- The nesting of a value. -/
def depth : Json → Nat
  | .arr xs => depthItems xs + 1
  | .obj fs => depthFields fs + 1
  | _ => 1

def depthItems : List Json → Nat
  | [] => 0
  | x :: xs => max (depth x) (depthItems xs)

def depthFields : List (String × Json) → Nat
  | [] => 0
  | (_, v) :: fs => max (depth v) (depthFields fs)

end

/-- How many schemas may be passed through at one place of a value. -/
def stepsPerPlace : Nat := 16

/-- All violations of a value under a schema document. -/
def check (document : Schema) (value : Json) : List Violation :=
  violations document.definitions (stepsPerPlace * depth value) document value

/-- The texts by which violations are ordered. -/
def sortKey (v : Violation) : List String :=
  v.place.map fun
    | .key k => k
    | .index i => toString i

/-- The violations ordered by the texts of their places, those of one place staying in order. -/
def sorted (vs : List Violation) : List Violation :=
  vs.mergeSort fun a b => !(sortKey b).lex (sortKey a) (fun s t => decide (s < t))

/-- Where definitions stand in a document. -/
def definitionPointer : String := "#/$defs/"

mutual

/-- The document form of a schema. -/
def toJson : Schema → Json
  | .accept => .bool true
  | .refuse => .bool false
  | .rules rs => .obj (rulesToFields rs)

def rulesToFields : List (SchemaRule Schema) → List (String × Json)
  | [] => []
  | r :: rs => ruleToField r :: rulesToFields rs

def ruleToField : SchemaRule Schema → String × Json
  | .remark k v => (k, v)
  | .type true [t] => ("type", .str t.name)
  | .type _ ts => ("type", .arr (ts.map fun t => .str t.name))
  | .required names => ("required", .arr (names.map .str))
  | .properties ss => ("properties", .obj (namedToFields ss))
  | .additionalProperties s => ("additionalProperties", toJson s)
  | .items s => ("items", toJson s)
  | .options vs => ("enum", .arr vs)
  | .const v => ("const", v)
  | .pattern p => ("pattern", .str p)
  | .minLength n => ("minLength", .int n)
  | .anyOf ss => ("anyOf", .arr (listToJson ss))
  | .allOf ss => ("allOf", .arr (listToJson ss))
  | .condition s => ("if", toJson s)
  | .consequence s => ("then", toJson s)
  | .ref name => ("$ref", .str (definitionPointer ++ name))
  | .definitions ss => ("$defs", .obj (namedToFields ss))

def namedToFields : List (String × Schema) → List (String × Json)
  | [] => []
  | (k, s) :: ss => (k, toJson s) :: namedToFields ss

def listToJson : List Schema → List Json
  | [] => []
  | s :: ss => toJson s :: listToJson ss

end

/-- The texts of a list of distinct texts. -/
def distinctTexts? : List Json → Option (List String)
  | [] => some []
  | .str s :: xs => do
    let rest ← distinctTexts? xs
    if s ∈ rest then none else some (s :: rest)
  | _ => none

/-- The rule of a keyword whose value holds no schema; `none` if the value is malformed. -/
def simpleRule? (key : String) (value : Json) : Option Rule :=
  match key, value with
  | "type", .str s => (SchemaType.ofName? s).map fun t => .type true [t]
  | "type", .arr xs => do
    let names ← distinctTexts? xs
    let types ← names.mapM SchemaType.ofName?
    if types.isEmpty then none else some (.type false types)
  | "type", _ => none
  | "required", .arr xs => (distinctTexts? xs).map .required
  | "required", _ => none
  | "enum", .arr xs => some (.options xs)
  | "enum", _ => none
  | "const", v => some (.const v)
  | "pattern", .str s => some (.pattern s)
  | "pattern", _ => none
  | "minLength", .int n => if 0 ≤ n then some (.minLength n.toNat) else none
  | "minLength", _ => none
  | "$ref", .str s =>
    if definitionPointer.toList.isPrefixOf s.toList then
      some (.ref (String.ofList (s.toList.drop definitionPointer.length)))
    else some (.remark key value)
  | "$ref", _ | "title", .null | "title", .bool _ | "title", .int _ | "title", .float _ => none
  | "title", .arr _ | "title", .obj _ => none
  | _, _ => some (.remark key value)

mutual

/-- Reads a schema document; `none` if a rule is malformed. Rules of other keywords are kept as
remarks. -/
def ofJson? : Json → Option Schema
  | .bool true => some .accept
  | .bool false => some .refuse
  | .obj fs => (rulesOfFields? fs).map .rules
  | _ => none

def rulesOfFields? : List (String × Json) → Option (List (SchemaRule Schema))
  | [] => some []
  | (k, v) :: fs => do
    let r ← ruleOfField? k v
    let rs ← rulesOfFields? fs
    some (r :: rs)

def ruleOfField? (key : String) (value : Json) : Option (SchemaRule Schema) :=
  match key with
  | "properties" => (namedOfJson? value).map .properties
  | "$defs" => (namedOfJson? value).map .definitions
  | "additionalProperties" => (ofJson? value).map .additionalProperties
  | "items" => (ofJson? value).map .items
  | "if" => (ofJson? value).map .condition
  | "then" => (ofJson? value).map .consequence
  | "anyOf" => (listOfJson? value).map .anyOf
  | "allOf" => (listOfJson? value).map .allOf
  | key => simpleRule? key value

def namedOfJson? : Json → Option (List (String × Schema))
  | .obj fs => namedOfFields? fs
  | _ => none

def namedOfFields? : List (String × Json) → Option (List (String × Schema))
  | [] => some []
  | (k, v) :: fs => do
    let s ← ofJson? v
    let ss ← namedOfFields? fs
    some ((k, s) :: ss)

/-- A list of schemas that is not empty. -/
def listOfJson? : Json → Option (List Schema)
  | .arr [] => none
  | .arr xs => listOfItems? xs
  | _ => none

def listOfItems? : List Json → Option (List Schema)
  | [] => some []
  | x :: xs => do
    let s ← ofJson? x
    let ss ← listOfItems? xs
    some (s :: ss)

end

end Schema
end Screenwright

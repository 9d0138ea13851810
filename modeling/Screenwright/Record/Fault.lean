/-! Faults found when a JSON value is read as a record, each with its place in the value. -/
namespace Screenwright

/-- One step from a value into a part of it. -/
inductive Place where
  | key (name : String)
  | index (i : Nat)
  deriving DecidableEq, Repr

/-- What is wrong with a value that should be a field of a record. -/
inductive FaultKind where
  | missing
  | extra
  | notString
  | notObject
  | notList
  | notRecord (name : String)
  | notOneOf (allowed : List String)
  | notInteger
  | unreadableInteger
  | fractionalInteger
  | oversizedInteger
  | notFiniteNumber
  | notNumber
  | unreadableNumber
  | emptyText
  | tooDeep
  deriving DecidableEq, Repr

/-- A fault at a place, the outermost step first. -/
structure RecordFault where
  place : List Place
  kind : FaultKind
  deriving DecidableEq, Repr

namespace FaultKind

/-- The short name of a fault. -/
def label : FaultKind → String
  | missing => "missing"
  | extra => "extra_forbidden"
  | notString => "string_type"
  | notObject => "dict_type"
  | notList => "list_type"
  | notRecord _ => "model_type"
  | notOneOf _ => "literal_error"
  | notInteger => "int_type"
  | unreadableInteger => "int_parsing"
  | fractionalInteger => "int_from_float"
  | oversizedInteger => "int_parsing_size"
  | notFiniteNumber => "finite_number"
  | notNumber => "float_type"
  | unreadableNumber => "float_parsing"
  | emptyText => "value_error"
  | tooDeep => "recursion_depth_exceeded"

/-- Quoted alternatives: commas between them and an `or` before the last. -/
def alternatives : List String → String
  | [] => ""
  | [a] => s!"'{a}'"
  | [a, b] => s!"'{a}' or '{b}'"
  | a :: rest => s!"'{a}', " ++ alternatives rest

def message : FaultKind → String
  | missing => "Field required"
  | extra => "Extra inputs are not permitted"
  | notString => "Input should be a valid string"
  | notObject => "Input should be a valid dictionary"
  | notList => "Input should be a valid list"
  | notRecord name => "Input should be a valid dictionary or instance of " ++ name
  | notOneOf allowed => "Input should be " ++ alternatives allowed
  | notInteger => "Input should be a valid integer"
  | unreadableInteger => "Input should be a valid integer, unable to parse string as an integer"
  | fractionalInteger => "Input should be a valid integer, got a number with a fractional part"
  | oversizedInteger => "Unable to parse input string as an integer, exceeded maximum size"
  | notFiniteNumber => "Input should be a finite number"
  | notNumber => "Input should be a valid number"
  | unreadableNumber => "Input should be a valid number, unable to parse string as a number"
  | emptyText => "Value error, must be a non-empty string"
  | tooDeep => "Recursion error - maximum validation depth exceeded"

end FaultKind

/-- A path with one more step: an index stands in brackets, a name after a dot. -/
def Place.extended (path : String) (isIndex : Bool) (step : String) : String :=
  if isIndex then path ++ "[" ++ step ++ "]"
  else if path = "" then step
  else path ++ "." ++ step

/-- A path of steps from `root`; an empty path is `spec`. -/
def Place.pathOf (root : String) (steps : List (Bool × String)) : String :=
  let path := steps.foldl (fun path s => Place.extended path s.1 s.2) root
  if path = "" then "spec" else path

/-- A path such as `tree.children[0].props` that starts at `root`. -/
def Place.path (root : String) (places : List Place) : String :=
  Place.pathOf root (places.map fun
    | .index i => (true, toString i)
    | .key k => (false, k))

end Screenwright

import Screenwright.Fields
import Screenwright.Number.Binary64

/-! JSON values, with integers of any size beside floating-point numbers and objects in the order
of their document. -/
namespace Screenwright

/-- A JSON value. Integers and floating-point numbers are told apart by their spelling. -/
inductive Json where
  | null
  | bool (b : Bool)
  | int (n : Int)
  | float (x : Binary64)
  | str (s : String)
  | arr (items : List Json)
  | obj (fields : List (String × Json))
  deriving Inhabited, Repr

namespace Json

/-- The value of a key of an object. -/
def get? (j : Json) (key : String) : Option Json :=
  match j with
  | .obj fs => Fields.get? fs key
  | _ => none

def asString? : Json → Option String
  | .str s => some s
  | _ => none

def asObject? : Json → Option (Fields Json)
  | .obj fs => some fs
  | _ => none

def asArray? : Json → Option (List Json)
  | .arr xs => some xs
  | _ => none

def isNull : Json → Bool
  | .null => true
  | _ => false

def isObject : Json → Bool
  | .obj _ => true
  | _ => false

def isString : Json → Bool
  | .str _ => true
  | _ => false

/-- Whether a value counts as present: null, false, zero and empty values do not. -/
def isTruthy : Json → Bool
  | .null => false
  | .bool b => b
  | .int n => n != 0
  | .float x => !x.isZero
  | .str s => s != ""
  | .arr xs => !xs.isEmpty
  | .obj fs => !fs.isEmpty

/-- The text of a string value that is not empty. -/
def nonEmptyText? : Json → Option String
  | .str s => if s = "" then none else some s
  | _ => none

/-- What a message calls the type of a value. -/
def typeName : Json → String
  | .null => "NoneType"
  | .bool _ => "bool"
  | .int _ => "int"
  | .float _ => "float"
  | .str _ => "str"
  | .arr _ => "list"
  | .obj _ => "dict"

end Json
end Screenwright

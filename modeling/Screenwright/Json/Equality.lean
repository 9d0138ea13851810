import Screenwright.Json.Basic

/-! Two equalities of JSON values. In both an integer equals the floating-point number of the same
value and objects are compared without order; they differ on whether `true` equals `1`. -/
namespace Screenwright.Json

/-- The number a value stands for, if booleans count as `0` and `1`. -/
def asNumber? : Json → Option Json
  | .bool b => some (.int (if b then 1 else 0))
  | .int n => some (.int n)
  | .float x => some (.float x)
  | _ => none

/-- Equality of numbers by value. -/
def numericEq : Json → Json → Bool
  | .int m, .int n => m == n
  | .int m, .float y => y.eqInt m
  | .float x, .int n => x.eqInt n
  | .float x, .float y => x.numEq y
  | _, _ => false

mutual

/-- Equality up to the spelling of numbers; `boolsAreNumbers` makes `true` equal `1`. -/
def equal (boolsAreNumbers : Bool) : Json → Json → Bool
  | .null, .null => true
  | .str s, .str t => s == t
  | .bool a, .bool b => a == b
  | .arr xs, .arr ys => equalItems boolsAreNumbers xs ys
  | .obj fs, .obj gs => fs.length == gs.length && equalFields boolsAreNumbers fs gs
  | .int m, y => equalNumber boolsAreNumbers (.int m) y
  | .float m, y => equalNumber boolsAreNumbers (.float m) y
  | .bool a, y => boolsAreNumbers && equalNumber true (.bool a) y
  | _, _ => false

/-- Equality of a number with any value. -/
def equalNumber (boolsAreNumbers : Bool) (x y : Json) : Bool :=
  match y with
  | .bool _ => boolsAreNumbers && numericEq ((asNumber? x).getD .null) ((asNumber? y).getD .null)
  | _ => numericEq ((asNumber? x).getD .null) y

def equalItems (boolsAreNumbers : Bool) : List Json → List Json → Bool
  | [], [] => true
  | x :: xs, y :: ys => equal boolsAreNumbers x y && equalItems boolsAreNumbers xs ys
  | _, _ => false

/-- Whether each of the first fields is a field of the second object with an equal value. -/
def equalFields (boolsAreNumbers : Bool) : List (String × Json) → List (String × Json) → Bool
  | [], _ => true
  | (k, v) :: fs, gs =>
    (match gs.lookup k with
      | some w => equal boolsAreNumbers v w
      | none => false) && equalFields boolsAreNumbers fs gs

end

/-- Equality of values in which `true` equals `1` and `false` equals `0`. -/
def sameValue (x y : Json) : Bool := equal true x y

/-- Equality of values as schemas compare them: no boolean equals a number. -/
def schemaEq (x y : Json) : Bool := equal false x y

end Screenwright.Json

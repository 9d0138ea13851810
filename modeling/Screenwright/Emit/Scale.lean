import Screenwright.Json.Text
import Screenwright.Text.Blank
import Screenwright.Text.DecimalDigit

/-! Scale steps and lengths, converted to the units of each target. -/
namespace Screenwright.Emit

/-- A decimal number written with digits of any script: `± coefficient · 10^(-places)`. -/
structure WrittenNumber where
  negative : Bool
  coefficient : Nat
  places : Nat
  deriving DecidableEq, Repr

namespace WrittenNumber

def value (n : WrittenNumber) : Binary64 :=
  .ofDecimal n.negative n.coefficient (-Int.ofNat n.places)

/-- Splits the digits at the head off. -/
def takeDigits (cs : List Char) : List Nat × List Char :=
  ((cs.takeWhile Text.isDecimalDigit).filterMap Text.decimalValue?,
    cs.dropWhile Text.isDecimalDigit)

def ofDigits (ds : List Nat) : Nat := ds.foldl (fun n d => n * 10 + d) 0

/-- The number at the head: digits, and a point with digits after it. -/
def unsigned? (negative : Bool) (cs : List Char) : Option (WrittenNumber × List Char) :=
  match takeDigits cs with
  | ([], _) => none
  | (whole, '.' :: rest) =>
    match takeDigits rest with
    | ([], _) => some (⟨negative, ofDigits whole, 0⟩, '.' :: rest)
    | (fraction, rest) => some (⟨negative, ofDigits (whole ++ fraction), fraction.length⟩, rest)
  | (whole, rest) => some (⟨negative, ofDigits whole, 0⟩, rest)

end WrittenNumber

/-- Whether nothing is left of a text but a line end. -/
def atEnd (cs : List Char) : Bool := cs == [] || cs == ['\n']

/-- The number of a scale step: a text that is nothing but an unsigned number. -/
def step? (s : String) : Option WrittenNumber := do
  let (n, rest) ← WrittenNumber.unsigned? false s.toList
  if atEnd rest then some n else none

/-- A unit that lengths may have. -/
inductive LengthUnit where
  | none
  | px
  | relative
  deriving DecidableEq, Repr

def unit? (cs : List Char) : Option LengthUnit :=
  if cs = [] then some .none
  else if cs = "px".toList then some .px
  else if cs = "rem".toList ∨ cs = "em".toList then some .relative
  else Option.none

/-- The number and the unit of a length. -/
def length? (cs : List Char) : Option (WrittenNumber × LengthUnit) := do
  let (n, rest) ← match cs with
    | '-' :: rest => WrittenNumber.unsigned? true rest
    | cs => WrittenNumber.unsigned? false cs
  let u ← unit? rest
  some (n, u)

/-- The value under a key of a scale, or under the default step. -/
def scaleLookup (scale : Fields String) (key : Option Json) (default : String) : String :=
  let fallback := (scale.get? default).getD "4"
  match key with
  | some (.str k) => (scale.get? k).getD fallback
  | _ => fallback

/-- A step in a style sheet: a quarter of a root unit. Other lengths stay. -/
def stepToCss (s : String) : String :=
  match step? s with
  | some n => (n.value.scale 1 4).toGeneral ++ "rem"
  | none => s

/-- A number, written as an integer if it is one. -/
def points (x : Binary64) : Json :=
  match x.toInt? with
  | some n => .int n
  | none => .float x

/-- A length in points; a relative unit has sixteen. Other values stay. -/
def lengthToPoints (value : Json) : Json :=
  match value with
  | .str s =>
    match length? (Text.trimWhile Text.isBlank s.toList) with
    | some (n, .relative) => points (n.value.scale 16 1)
    | some (n, _) => points n.value
    | none => value
  | value => value

/-- A step in points, four each; other lengths are converted. -/
def stepToPoints (s : String) : Json :=
  match step? s with
  | some n => points (n.value.scale 4 1)
  | none => lengthToPoints (.str s)

def blankToLowLine (s : String) : String := s.map fun c => if c = ' ' then '_' else c

/-- A utility class for a step, or for a length of its own in brackets. -/
def stepToClass (stem : String) (s : String) : String :=
  match step? s with
  | some _ => stem ++ "-" ++ s
  | none => stem ++ "-[" ++ blankToLowLine s ++ "]"

end Screenwright.Emit

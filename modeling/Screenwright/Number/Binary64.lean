/-! Binary floating-point numbers of double precision, as signed dyadic values, and the rounding
that brings an exact ratio to the nearest of them. -/
namespace Screenwright

/-- A double-precision number: `finite s m q` stands for `± m · 2^q`. -/
inductive Binary64 where
  | nan
  | infinite (negative : Bool)
  | finite (negative : Bool) (mantissa : Nat) (exponent : Int)
  deriving DecidableEq, Repr, Inhabited

namespace Binary64

/-- The least exponent; zero and the subnormal numbers have it. -/
def minExponent : Int := -1074

/-- The greatest exponent of a finite number. -/
def maxExponent : Int := 971

/-- Mantissas stay below this bound, and reach half of it unless the exponent is least. -/
def mantissaBound : Nat := Nat.pow 2 53

def zero (negative : Bool) : Binary64 := .finite negative 0 minExponent

/-- Whether a finite number is written with its one standard mantissa and exponent. -/
def Canonical : Binary64 → Prop
  | .nan | .infinite _ => True
  | .finite _ m q => m < mantissaBound ∧ minExponent ≤ q ∧ q ≤ maxExponent ∧
      (mantissaBound ≤ 2 * m ∨ q = minExponent)

def isFinite : Binary64 → Bool
  | .finite .. => true
  | _ => false

def isZero : Binary64 → Bool
  | .finite _ m _ => m == 0
  | _ => false

/-- The integer nearest to `num / den`; a half goes to the even neighbour. -/
def roundHalfEven (num den : Nat) : Nat :=
  let quotient := num / den
  let twice := 2 * (num % den)
  if twice < den then quotient
  else if den < twice then quotient + 1
  else quotient + quotient % 2

/-- `num / den` as a pair over a grid of step `2^q`. -/
def onGrid (num den : Nat) (q : Int) : Nat × Nat :=
  match q with
  | .ofNat n => (num, den * Nat.pow 2 n)
  | .negSucc n => (num * Nat.pow 2 (n + 1), den)

/-- The exponent of the grid on which `num / den` has 53 binary digits. -/
def gridExponent (num den : Nat) : Int :=
  let q : Int := Int.ofNat num.log2 - Int.ofNat den.log2 - 52
  let (n, d) := onGrid num den q
  max minExponent (if Nat.pow 2 52 * d ≤ n then q else q - 1)

/-- The number nearest to `num / den`, a tie going to the even mantissa and overflow to infinity. -/
def ofRatio (negative : Bool) (num den : Nat) : Binary64 :=
  if num = 0 then zero negative
  else
    let q := gridExponent num den
    let (n, d) := onGrid num den q
    let m := roundHalfEven n d
    let (m, q) := if m = mantissaBound then (Nat.pow 2 52, q + 1) else (m, q)
    if maxExponent < q then .infinite negative
    else if m = 0 then zero negative
    else .finite negative m q

/-- The number nearest to an integer. -/
def ofInt (n : Int) : Binary64 :=
  ofRatio (decide (n < 0)) n.natAbs 1

/-- Beyond this power of ten every number is infinite, and below its inverse every number is zero. -/
def decimalReach : Int := 400

/-- The number nearest to `± coefficient · 10^exponent`. -/
def ofDecimal (negative : Bool) (coefficient : Nat) (exponent : Int) : Binary64 :=
  let lead := exponent + Int.ofNat (Nat.toDigits 10 coefficient).length
  if coefficient = 0 ∨ lead < -decimalReach then zero negative
  else if decimalReach < lead then .infinite negative
  else match exponent with
    | .ofNat n => ofRatio negative (coefficient * Nat.pow 10 n) 1
    | .negSucc n => ofRatio negative coefficient (Nat.pow 10 (n + 1))

/-- The exact magnitude of `m · 2^q` as a ratio. -/
def ratio (m : Nat) : Int → Nat × Nat
  | .ofNat n => (m * Nat.pow 2 n, 1)
  | .negSucc n => (m, Nat.pow 2 (n + 1))

/-- The product with `num / den`, rounded once. -/
def scale (x : Binary64) (num den : Nat) : Binary64 :=
  match x with
  | .finite s m q =>
    let (n, d) := ratio m q
    ofRatio s (n * num) (d * den)
  | x => x

/-- The integer part, towards zero. -/
def truncate? : Binary64 → Option Int
  | .finite s m q =>
    let (n, d) := ratio m q
    let magnitude := Int.ofNat (n / d)
    some (if s then -magnitude else magnitude)
  | _ => none

/-- The integer that equals the number, if there is one. -/
def toInt? : Binary64 → Option Int
  | .finite s m q =>
    let (n, d) := ratio m q
    if n % d = 0 then
      let magnitude := Int.ofNat (n / d)
      some (if s then -magnitude else magnitude)
    else none
  | _ => none

/-- The exact comparison of two ratios. -/
def ratioLt (a b : Int × Nat) : Bool :=
  a.1 * b.2 < b.1 * a.2

/-- The signed exact value of a finite number. -/
def toRatio? : Binary64 → Option (Int × Nat)
  | .finite s m q =>
    let (n, d) := ratio m q
    some (if s then -Int.ofNat n else Int.ofNat n, d)
  | _ => none

/-- Numeric equality: the zeros are equal and a NaN equals nothing. -/
def numEq : Binary64 → Binary64 → Bool
  | .nan, _ | _, .nan => false
  | .infinite s, .infinite t => s == t
  | .finite s m q, .finite t n r =>
    let (a, b) := ratio m q
    let (c, d) := ratio n r
    a * d == c * b && (a == 0 || s == t)
  | _, _ => false

/-- Whether a number equals an integer exactly. -/
def eqInt (x : Binary64) (n : Int) : Bool :=
  x.toInt? == some n

/-- One less than a number above one. -/
def predecessorAboveOne? : Binary64 → Option Binary64
  | .nan | .infinite true => none
  | .infinite false => some (.infinite false)
  | .finite s m q =>
    let (n, d) := ratio m q
    if !s && decide (d < n) then some (ofRatio false (n - d) d) else none

end Binary64
end Screenwright

import Screenwright.Number.Binary64

/-! Decimal texts of double-precision numbers: the fewest digits that read back to the number,
a fixed count of significant digits, and the layouts in which the digits are written. -/
namespace Screenwright

/-- `coefficient · 10^exponent`, with no trailing zero in a nonzero coefficient. -/
structure Decimal where
  coefficient : Nat
  exponent : Int
  deriving DecidableEq, Repr

namespace Decimal

/-- Trailing zeros move from the coefficient to the exponent. -/
def normalize (coefficient : Nat) (exponent : Int) : Decimal :=
  if coefficient = 0 then ⟨0, 0⟩
  else if coefficient % 10 = 0 then normalize (coefficient / 10) (exponent + 1)
  else ⟨coefficient, exponent⟩
termination_by coefficient
decreasing_by omega

/-- `10^e` as a ratio. -/
def powerOfTen : Int → Nat × Nat
  | .ofNat n => (Nat.pow 10 n, 1)
  | .negSucc n => (1, Nat.pow 10 (n + 1))

/-- The number of decimal digits of a natural number; zero has one. -/
def digitCount (n : Nat) : Nat := (Nat.toDigits 10 n).length

/-- The exponent `k` with `10^(k-1) ≤ num / den < 10^k`. -/
def magnitude (num den : Nat) : Int :=
  if den ≤ num then Int.ofNat (digitCount (num / den))
  else
    let k : Int := Int.ofNat (digitCount num) - Int.ofNat (digitCount den)
    let (p, r) := powerOfTen k
    if p * den ≤ num * r then k + 1 else k

/-- The open or closed interval of ratios, over one denominator, that round to a number. -/
structure Interval where
  low : Nat
  high : Nat
  den : Nat
  closed : Bool

/-- The ratios that round to `m · 2^q`: half a step on either side, the lower step being halved
where the binary exponent changes, and the ends belong to an even mantissa. -/
def Interval.around (m : Nat) (q : Int) : Interval :=
  let narrow := m = Nat.pow 2 52 ∧ Binary64.minExponent < q
  let (n, d) := Binary64.ratio 1 q
  ⟨(4 * m - if narrow then 1 else 2) * n, (4 * m + 2) * n, 4 * d, m % 2 == 0⟩

def Interval.contains (i : Interval) (num den : Nat) : Bool :=
  let a := num * i.den
  let lo := i.low * den
  let hi := i.high * den
  if i.closed then lo ≤ a && a ≤ hi else lo < a && a < hi

/-- The nearest decimal of the given grid that rounds to the number, if the grid has one. -/
def onGrid? (i : Interval) (num den : Nat) (exponent : Int) : Option Nat :=
  let (p, r) := powerOfTen exponent
  let below := num * r / (den * p)
  let above := below + 1
  let hit := fun c : Nat => i.contains (c * p) r
  let gapBelow := num * r - below * (den * p)
  let gapAbove := above * (den * p) - num * r
  match hit below, hit above with
  | true, true =>
    if gapBelow < gapAbove then some below
    else if gapAbove < gapBelow then some above
    else some (below + below % 2)
  | true, false => some below
  | false, true => some above
  | false, false => none

/-- The first grid of `digits`, `digits + 1`, … digits, `steps` of them, that has a decimal. -/
def shortestFrom (i : Interval) (num den : Nat) (k : Int) (digits : Nat) : Nat → Decimal
  | 0 => normalize num 0
  | steps + 1 =>
    let exponent := k - Int.ofNat digits
    match onGrid? i num den exponent with
    | some c => normalize c exponent
    | none => shortestFrom i num den k (digits + 1) steps

/-- The decimal of fewest digits that reads back as `m · 2^q`, the nearest of them. -/
def shortest (m : Nat) (q : Int) : Decimal :=
  if m = 0 then ⟨0, 0⟩
  else
    let (num, den) := Binary64.ratio m q
    shortestFrom (.around m q) num den (magnitude num den) 1 17

/-- The value with the given count of significant digits; a half goes to the even neighbour. -/
def significant (count : Nat) (m : Nat) (q : Int) : Decimal :=
  if m = 0 then ⟨0, 0⟩
  else
    let (num, den) := Binary64.ratio m q
    let exponent := magnitude num den - Int.ofNat count
    let (p, r) := powerOfTen exponent
    normalize (Binary64.roundHalfEven (num * r) (den * p)) exponent

end Decimal

/-- How the digits of a number are laid out. -/
structure NumberLayout where
  /-- Powers of ten of the first digit below this bound are written with an exponent. -/
  positionalFrom : Int
  /-- Powers of ten of the first digit from this bound on are written with an exponent. -/
  positionalBelow : Int
  /-- Whether an integral value in positional form ends in `.0`. -/
  keepPoint : Bool
  nan : String
  infinity : String

namespace NumberLayout

/-- Fewest digits, positional from `1e-4` to below `1e16`. -/
def plain : NumberLayout := ⟨-4, 16, true, "nan", "inf"⟩

/-- The same layout with the non-finite numbers spelled as a script literal. -/
def literal : NumberLayout := { plain with nan := "NaN", infinity := "Infinity" }

/-- Six significant digits, positional from `1e-4` to below `1e6`. -/
def general : NumberLayout := ⟨-4, 6, false, "nan", "inf"⟩

def zeros (n : Nat) : List Char := List.replicate n '0'

/-- A signed exponent of at least two digits. -/
def exponentText (e : Int) : List Char :=
  let digits := Nat.toDigits 10 e.natAbs
  'e' :: (if e < 0 then '-' else '+') :: (zeros (2 - digits.length) ++ digits)

def magnitudeText (l : NumberLayout) (d : Decimal) : List Char :=
  let digits := Nat.toDigits 10 d.coefficient
  let lead : Int := if d.coefficient = 0 then 0 else d.exponent + Int.ofNat digits.length - 1
  if l.positionalFrom ≤ lead ∧ lead < l.positionalBelow then
    if 0 ≤ d.exponent then
      digits ++ zeros d.exponent.toNat ++ (if l.keepPoint then ['.', '0'] else [])
    else if 0 ≤ lead then
      let whole := lead.toNat + 1
      digits.take whole ++ '.' :: digits.drop whole
    else '0' :: '.' :: (zeros (-lead - 1).toNat ++ digits)
  else
    match digits with
    | [] => []
    | c :: [] => c :: exponentText lead
    | c :: rest => c :: '.' :: (rest ++ exponentText lead)

/-- The text of a number whose decimal is chosen by `pick`. -/
def render (l : NumberLayout) (pick : Nat → Int → Decimal) : Binary64 → String
  | .nan => l.nan
  | .infinite negative => if negative then "-" ++ l.infinity else l.infinity
  | .finite negative m q =>
    let text := l.magnitudeText (pick m q)
    String.ofList (if negative then '-' :: text else text)

end NumberLayout

namespace Binary64

/-- The text that reads back to the same number. -/
def toText (x : Binary64) : String := NumberLayout.plain.render Decimal.shortest x

/-- The text of a number in a script literal. -/
def toLiteral (x : Binary64) : String := NumberLayout.literal.render Decimal.shortest x

/-- The text to six significant digits. -/
def toGeneral (x : Binary64) : String := NumberLayout.general.render (Decimal.significant 6) x

end Binary64
end Screenwright

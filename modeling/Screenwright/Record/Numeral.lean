import Screenwright.Number.Decimal
import Screenwright.Number.DigitLimit
import Screenwright.Record.Fault
import Screenwright.Text.Blank

/-! Numerals: the texts that stand for integers and numbers in records. -/
namespace Screenwright.Numeral

def digitsValue (cs : List Char) : Nat := cs.foldl (fun n c => n * 10 + (c.toNat - 48)) 0

/-- Splits a minus off. -/
def splitMinus : List Char → Bool × List Char
  | '-' :: cs => (true, cs)
  | cs => (false, cs)

/-- Splits a sign off; `true` stands for a minus. -/
def splitSign : List Char → Bool × List Char
  | '+' :: cs => (false, cs)
  | cs => splitMinus cs

/-- Whether a text has low lines, each of them between two other characters. -/
def isGrouped (cs : List Char) : Bool :=
  cs.contains '_' && cs.head? != some '_' && cs.getLast? != some '_' &&
    !(cs.zip (cs.drop 1)).contains ('_', '_')

def withoutLowLines (cs : List Char) : List Char := cs.filter (· != '_')

/-! ### Integers -/

/-- The integer of a plain numeral: digits that do not start with a needless zero, after a minus or
nothing. Too many digits are refused whatever follows them. -/
def plainInteger (cs : List Char) : Except FaultKind Int :=
  let (negative, digits) := splitMinus cs
  let read := fun (n : Nat) => if negative then -Int.ofNat n else Int.ofNat n
  match digits with
  | [] => .error .unreadableInteger
  | ['0'] => .ok 0
  | '0' :: _ => .error .unreadableInteger
  | _ =>
    if maxIntegerDigits < (digits.takeWhile Char.isDigit).length then .error .oversizedInteger
    else if digits.all Char.isDigit then .ok (read (digitsValue digits))
    else .error .unreadableInteger

/-- What is left of a numeral when zeros and low lines at its head are passed over, `last` being the
one passed last. A digit or a minus starts the rest; before a point and at the end the last
character passed stays. -/
def afterZeros (last : Char) : List Char → Option (List Char)
  | [] => some [last]
  | c :: cs =>
    if c = '0' ∨ c = '_' then afterZeros c cs
    else if c = '.' then some (last :: c :: cs)
    else if c.isDigit ∨ c = '-' then some (c :: cs)
    else none

/-- A numeral without needless zeros at its head, which has to be a digit. -/
def withoutLeadingZeros? : List Char → Option (List Char)
  | '0' :: cs => afterZeros '0' cs
  | c :: cs => if c.isDigit then some (c :: cs) else none
  | [] => none

/-- A numeral without a point that only zeros follow. -/
def withoutZeroFraction (cs : List Char) : List Char :=
  match cs.dropWhile (· != '.') with
  | '.' :: z :: zs =>
    if (z :: zs).all (· == '0') then cs.takeWhile (· != '.') else cs
  | _ => cs

/-- The plain numeral that an unsigned one stands for, if it has one. -/
def plain? (cs : List Char) : Option (List Char) :=
  (withoutLeadingZeros? cs).map fun cs =>
    let cs := withoutZeroFraction cs
    if isGrouped cs then withoutLowLines cs else cs

/-- The plain numeral of one with a sign. -/
def signedPlain? : List Char → Option (List Char)
  | '+' :: cs => plain? cs
  | '-' :: cs => (plain? cs).map ('-' :: ·)
  | cs => plain? cs

/-- The integer that a text stands for. Beside plain numerals there may be blanks around, a plus,
zeros in front, zeros after a point, and low lines between digits. -/
def integer (s : String) : Except FaultKind Int :=
  match plainInteger s.toList with
  | .error .unreadableInteger =>
    match signedPlain? (Text.trimWhile Text.isSpacing s.toList) with
    | some cs => plainInteger cs
    | none => .error .unreadableInteger
  | r => r

/-! ### Numbers -/

/-- The exponent that a text ends with, zero for the empty text. -/
def exponent? : List Char → Option Int
  | [] => some 0
  | _ :: cs =>
    let (negative, ds) := splitSign cs
    if ds.isEmpty || !ds.all Char.isDigit then none
    else some (if negative then -Int.ofNat (digitsValue ds) else Int.ofNat (digitsValue ds))

/-- A number from digits with a point and an exponent, any of the two sides of the point being
optional. -/
def decimal? (negative : Bool) (cs : List Char) : Option Binary64 :=
  let mantissa := cs.takeWhile fun c => c != 'e' && c != 'E'
  let whole := mantissa.takeWhile (· != '.')
  let fraction := (mantissa.dropWhile (· != '.')).drop 1
  let digits := whole ++ fraction
  if digits.isEmpty || !digits.all Char.isDigit then none
  else (exponent? (cs.dropWhile fun c => c != 'e' && c != 'E')).map fun e =>
    .ofDecimal negative (digitsValue digits) (e - Int.ofNat fraction.length)

/-- The number of a text without blanks and low lines. -/
def plainNumber? (cs : List Char) : Option Binary64 :=
  let (negative, cs) := splitSign cs
  let lowered := String.ofList (cs.map Char.toLower)
  if lowered = "inf" ∨ lowered = "infinity" then some (.infinite negative)
  else if lowered = "nan" then some .nan
  else decimal? negative cs

/-- The number that a text stands for. There may be blanks around it, or low lines within it, but
not both. -/
def number? (s : String) : Option Binary64 :=
  match plainNumber? (Text.trimWhile Text.isSpacing s.toList) with
  | some x => some x
  | none => if isGrouped s.toList then plainNumber? (withoutLowLines s.toList) else none

end Screenwright.Numeral

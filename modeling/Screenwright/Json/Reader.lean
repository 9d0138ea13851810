import Screenwright.Json.Basic
import Screenwright.Number.DigitLimit

/-! Reading JSON texts: the value, or what the reading stopped at: a fault and its place, or an
integer of too many digits. -/
namespace Screenwright.Json.Reader

/-- What is wrong with a text at some place. -/
inductive Fault where
  | byteOrderMark
  | value
  | propertyName
  | colon
  | comma
  | extraData
  | unterminatedString
  | controlCharacter
  | escape
  | unicodeEscape
  deriving DecidableEq, Repr

def Fault.message : Fault → String
  | .byteOrderMark => "Unexpected UTF-8 BOM (decode using utf-8-sig)"
  | .value => "Expecting value"
  | .propertyName => "Expecting property name enclosed in double quotes"
  | .colon => "Expecting ':' delimiter"
  | .comma => "Expecting ',' delimiter"
  | .extraData => "Extra data"
  | .unterminatedString => "Unterminated string starting at"
  | .controlCharacter => "Invalid control character at"
  | .escape => "Invalid \\escape"
  | .unicodeEscape => "Invalid \\uXXXX escape"

/-- The message of a fault at a text offset, counted in characters, with line and column, both
counted from one. -/
def Fault.messageAt (f : Fault) (offset : Nat) (source : List Char) : String :=
  let before := source.take offset
  let line := before.count '\n' + 1
  let column := (before.reverse.takeWhile (· != '\n')).length + 1
  s!"{f.message}: line {line} column {column} (char {offset})"

/-- What a reading stops at: a fault, with the text that is left at its place, or an integer. -/
inductive Stop where
  | fault (f : Fault) (rest : List Char)
  | oversized (e : OversizedInteger)
  deriving DecidableEq, Repr

abbrev Step (α : Type) := Except Stop (α × List Char)

def isJsonSpace (c : Char) : Bool := c == ' ' || c == '\t' || c == '\n' || c == '\r'

def skipSpace (cs : List Char) : List Char := cs.dropWhile isJsonSpace

def hexValue? (c : Char) : Option Nat :=
  if c.isDigit then some (c.toNat - 48)
  else if 'a' ≤ c ∧ c ≤ 'f' then some (c.toNat - 87)
  else if 'A' ≤ c ∧ c ≤ 'F' then some (c.toNat - 55)
  else none

/-- The number written by four hexadecimal digits. -/
def hexQuad? : List Char → Option Nat
  | [a, b, c, d] => do
    let a ← hexValue? a
    let b ← hexValue? b
    let c ← hexValue? c
    let d ← hexValue? d
    pure (((a * 16 + b) * 16 + c) * 16 + d)
  | _ => none

/-- The character of a one-letter escape. -/
def simpleEscape? (c : Char) : Option Char :=
  match c with
  | '"' => some '"'
  | '\\' => some '\\'
  | '/' => some '/'
  | 'b' => some (Char.ofNat 8)
  | 'f' => some (Char.ofNat 12)
  | 'n' => some '\n'
  | 'r' => some '\r'
  | 't' => some '\t'
  | _ => none

/-- The character that a surrogate stands for when it has no partner. -/
def loneSurrogate : Char := Char.ofNat 0xfffd

/-- The low surrogate written by the escape at the head of a text: its code if it is one, an
error if the escape is malformed. -/
def lowSurrogate? (cs : List Char) : Except Stop (Option Nat) :=
  match cs with
  | '\\' :: 'u' :: rest =>
    if rest.length ≤ 4 then .ok none
    else match hexQuad? (rest.take 4) with
      | none => .error (.fault .unicodeEscape ('u' :: rest))
      | some n => .ok (if 0xdc00 ≤ n ∧ n ≤ 0xdfff then some n else none)
  | _ => .ok none

/-- The character of a `\u` escape; `rest` follows the letter. -/
def unicodeEscape (rest : List Char) : Step Char :=
  if rest.length ≤ 4 then .error (.fault .unicodeEscape ('u' :: rest))
  else match hexQuad? (rest.take 4) with
    | none => .error (.fault .unicodeEscape ('u' :: rest))
    | some n =>
      let after := rest.drop 4
      if 0xd800 ≤ n ∧ n ≤ 0xdbff then
        match lowSurrogate? after with
        | .error e => .error e
        | .ok (some low) =>
          .ok (Char.ofNat (0x10000 + (n - 0xd800) * 0x400 + (low - 0xdc00)), after.drop 6)
        | .ok none => .ok (loneSurrogate, after)
      else if 0xdc00 ≤ n ∧ n ≤ 0xdfff then .ok (loneSurrogate, after)
      else .ok (Char.ofNat n, after)

/-- The characters of a string up to its closing quote; `opening` is the text from the opening
quote, and `acc` holds the characters read so far, last first. -/
def stringBody (opening : List Char) : Nat → List Char → List Char → Step String
  | 0, _, _ => .error (.fault .unterminatedString opening)
  | fuel + 1, acc, cs =>
    match cs with
    | [] => .error (.fault .unterminatedString opening)
    | '"' :: rest => .ok (String.ofList acc.reverse, rest)
    | '\\' :: rest =>
      match rest with
      | [] => .error (.fault .unterminatedString opening)
      | 'u' :: after =>
        match unicodeEscape after with
        | .error e => .error e
        | .ok (c, after) => stringBody opening fuel (c :: acc) after
      | c :: after =>
        match simpleEscape? c with
        | some d => stringBody opening fuel (d :: acc) after
        | none => .error (.fault .escape cs)
    | c :: rest =>
      if c.toNat < 0x20 then .error (.fault .controlCharacter cs)
      else stringBody opening fuel (c :: acc) rest

/-- The string whose opening quote has been passed. -/
def stringAfterQuote (rest : List Char) : Step String :=
  stringBody ('"' :: rest) (rest.length + 1) [] rest

def digitsValue (cs : List Char) : Nat := cs.foldl (fun n c => n * 10 + (c.toNat - 48)) 0

/-- The digits after a point, if a point with a digit stands at the head. -/
def fractionPart : List Char → List Char × List Char
  | '.' :: c :: rest =>
    if c.isDigit then (c :: rest.takeWhile Char.isDigit, rest.dropWhile Char.isDigit)
    else ([], '.' :: c :: rest)
  | cs => ([], cs)

/-- The exponent at the head, if there is one with a digit. -/
def exponentPart (cs : List Char) : Option Int × List Char :=
  let read := fun (negative : Bool) (rest : List Char) =>
    match rest.takeWhile Char.isDigit with
    | [] => (none, cs)
    | ds =>
      let n := Int.ofNat (digitsValue ds)
      (some (if negative then -n else n), rest.dropWhile Char.isDigit)
  match cs with
  | 'e' :: '-' :: rest | 'E' :: '-' :: rest => read true rest
  | 'e' :: '+' :: rest | 'E' :: '+' :: rest => read false rest
  | 'e' :: rest | 'E' :: rest => read false rest
  | _ => (none, cs)

/-- The digits before the point: a zero alone, or digits that do not start with a zero. -/
def wholePart : List Char → Option (List Char × List Char)
  | '0' :: rest => some (['0'], rest)
  | c :: rest =>
    if c.isDigit then some (c :: rest.takeWhile Char.isDigit, rest.dropWhile Char.isDigit) else none
  | [] => none

/-- The integer of digits, if they are not too many. -/
def integer (negative : Bool) (digits : List Char) : Except Stop Json :=
  if maxIntegerDigits < digits.length then .error (.oversized ⟨digits.length⟩)
  else
    let n := Int.ofNat (digitsValue digits)
    .ok (.int (if negative then -n else n))

/-- A number, whose sign has been passed; `start` is the text from its sign. -/
def number (start : List Char) (negative : Bool) (cs : List Char) : Step Json :=
  match wholePart cs with
  | none => .error (.fault .value start)
  | some (whole, rest) =>
    let (fraction, rest) := fractionPart rest
    let (exponent, rest) := exponentPart rest
    match fraction, exponent with
    | [], none => (integer negative whole).map (·, rest)
    | _, _ =>
      let e := exponent.getD 0 - Int.ofNat fraction.length
      .ok (.float (.ofDecimal negative (digitsValue (whole ++ fraction)) e), rest)

/-- The value of a word or number at the head of a text. -/
def scalar (cs : List Char) : Step Json :=
  match cs with
  | 'n' :: 'u' :: 'l' :: 'l' :: rest => .ok (.null, rest)
  | 't' :: 'r' :: 'u' :: 'e' :: rest => .ok (.bool true, rest)
  | 'f' :: 'a' :: 'l' :: 's' :: 'e' :: rest => .ok (.bool false, rest)
  | 'N' :: 'a' :: 'N' :: rest => .ok (.float .nan, rest)
  | 'I' :: 'n' :: 'f' :: 'i' :: 'n' :: 'i' :: 't' :: 'y' :: rest =>
    .ok (.float (.infinite false), rest)
  | '-' :: 'I' :: 'n' :: 'f' :: 'i' :: 'n' :: 'i' :: 't' :: 'y' :: rest =>
    .ok (.float (.infinite true), rest)
  | '-' :: rest => number cs true rest
  | cs => number cs false cs

mutual

/-- The value at the head of a text that has no space there. -/
def value : Nat → List Char → Step Json
  | 0, cs => .error (.fault .value cs)
  | fuel + 1, cs =>
    match cs with
    | '"' :: rest =>
      match stringAfterQuote rest with
      | .error e => .error e
      | .ok (s, rest) => .ok (.str s, rest)
    | '[' :: rest =>
      match skipSpace rest with
      | ']' :: rest => .ok (.arr [], rest)
      | rest => items fuel [] rest
    | '\x7b' :: rest =>
      match skipSpace rest with
      | '\x7d' :: rest => .ok (.obj [], rest)
      | rest => members fuel [] rest
    | cs => scalar cs

/-- The items of a list from the next one on; `acc` holds the earlier ones, last first. -/
def items : Nat → List Json → List Char → Step Json
  | 0, _, cs => .error (.fault .value cs)
  | fuel + 1, acc, cs =>
    match value fuel cs with
    | .error e => .error e
    | .ok (v, rest) =>
      match skipSpace rest with
      | ']' :: rest => .ok (.arr (v :: acc).reverse, rest)
      | ',' :: rest => items fuel (v :: acc) (skipSpace rest)
      | rest => .error (.fault .comma rest)

/-- The members of an object from the next one on. -/
def members : Nat → List (String × Json) → List Char → Step Json
  | 0, _, cs => .error (.fault .value cs)
  | fuel + 1, acc, cs =>
    match cs with
    | '"' :: rest =>
      match stringAfterQuote rest with
      | .error e => .error e
      | .ok (k, rest) =>
        match skipSpace rest with
        | ':' :: rest =>
          match value fuel (skipSpace rest) with
          | .error e => .error e
          | .ok (v, rest) =>
            match skipSpace rest with
            | '\x7d' :: rest => .ok (.obj (Fields.ofEntries ((k, v) :: acc).reverse), rest)
            | ',' :: rest => members fuel ((k, v) :: acc) (skipSpace rest)
            | rest => .error (.fault .comma rest)
        | rest => .error (.fault .colon rest)
    | rest => .error (.fault .propertyName rest)

end

end Screenwright.Json.Reader

namespace Screenwright.Json

/-- Why a text has no value: it is malformed, or an integer in it has too many digits. -/
inductive TextError where
  | malformed (message : String)
  | oversized (e : OversizedInteger)
  deriving DecidableEq, Repr

def TextError.message : TextError → String
  | malformed message => message
  | oversized e => e.message

namespace Reader

/-- What a stop says of the whole text. -/
def Stop.error (source : List Char) : Stop → TextError
  | fault f rest => .malformed (f.messageAt (source.length - rest.length) source)
  | oversized e => .oversized e

/-- Reads a whole text, space around the value being allowed. -/
def read (source : List Char) : Except Stop Json :=
  match source with
  | '\ufeff' :: _ => .error (.fault .byteOrderMark source)
  | _ =>
    match value (source.length + 1) (skipSpace source) with
    | .error e => .error e
    | .ok (v, rest) =>
      match skipSpace rest with
      | [] => .ok v
      | rest => .error (.fault .extraData rest)

end Reader

/-- Reads a whole text. -/
def ofText (s : String) : Except TextError Json :=
  let source := s.toList
  (Reader.read source).mapError (·.error source)

end Screenwright.Json

import Screenwright.Text.Printable

/-! Quoted texts: script literals in double and single quotes, literals in plain ASCII, and the
quotation used when a value is shown inside another text. -/
namespace Screenwright.Text

def hexDigit (n : Nat) : Char := (Nat.digitChar (n % 16))

/-- A number in hexadecimal with the given count of digits. -/
def hexDigits : Nat → Nat → List Char
  | 0, _ => []
  | width + 1, n => hexDigits width (n / 16) ++ [hexDigit n]

/-- The escape of a character in a double-quoted literal, if it has one. -/
def escape? (c : Char) : Option (List Char) :=
  if c = '"' then some ['\\', '"']
  else if c = '\\' then some ['\\', '\\']
  else if c = '\n' then some ['\\', 'n']
  else if c = '\r' then some ['\\', 'r']
  else if c = '\t' then some ['\\', 't']
  else if c.toNat = 0x08 then some ['\\', 'b']
  else if c.toNat = 0x0c then some ['\\', 'f']
  else if c.toNat < 0x20 then some ('\\' :: 'u' :: hexDigits 4 c.toNat)
  else none

def escapeChar (c : Char) : List Char := (escape? c).getD [c]

/-- A double-quoted literal; beyond the control characters all characters stand for themselves. -/
def quoteDouble (s : String) : String :=
  String.ofList ('"' :: (s.toList.flatMap escapeChar ++ ['"']))

/-- The escape of a character in a literal of printable ASCII; a character beyond the first plane
is written as its two surrogates. -/
def asciiChar (c : Char) : List Char :=
  match escape? c with
  | some e => e
  | none =>
    let n := c.toNat
    if n < 0x7f then [c]
    else if n < 0x10000 then '\\' :: 'u' :: hexDigits 4 n
    else
      let m := n - 0x10000
      '\\' :: 'u' :: (hexDigits 4 (0xd800 + m / 0x400) ++
        '\\' :: 'u' :: hexDigits 4 (0xdc00 + m % 0x400))

/-- A double-quoted literal in printable ASCII. -/
def quoteAscii (s : String) : String :=
  String.ofList ('"' :: (s.toList.flatMap asciiChar ++ ['"']))

def singleChar (c : Char) : List Char :=
  if c = '\\' ∨ c = '\'' then ['\\', c] else [c]

/-- A single-quoted literal, in which the quote and the backslash are escaped. -/
def quoteSingle (s : String) : String :=
  String.ofList ('\'' :: (s.toList.flatMap singleChar ++ ['\'']))

/-- A character of a shown text within the given quote. -/
def shownChar (quote : Char) (c : Char) : List Char :=
  if c = quote ∨ c = '\\' then ['\\', c]
  else if c = '\n' then ['\\', 'n']
  else if c = '\r' then ['\\', 'r']
  else if c = '\t' then ['\\', 't']
  else if isPrintable c then [c]
  else
    let n := c.toNat
    if n < 0x100 then '\\' :: 'x' :: hexDigits 2 n
    else if n < 0x10000 then '\\' :: 'u' :: hexDigits 4 n
    else '\\' :: 'U' :: hexDigits 8 n

/-- A text as shown inside another one: in single quotes, or in double quotes when it holds single
quotes and no double ones. -/
def show_ (s : String) : String :=
  let cs := s.toList
  let quote := if cs.contains '\'' && !cs.contains '"' then '"' else '\''
  String.ofList (quote :: (cs.flatMap (shownChar quote) ++ [quote]))

end Screenwright.Text

import Screenwright.Json.Reader
import Screenwright.Text.LetterCase

/-! Literals, as the parameters of console tags are written: numbers, texts, constants, and
collections of literals. -/
namespace Screenwright.CommandLine.Literal

/-- What a literal is, as far as what may stand around it depends on that. -/
inductive Kind where
  | number (isImaginary : Bool)
  | signed (isImaginary : Bool)
  /-- A value that may stand in a set or as a key, or one that may not. -/
  | value (isKey : Bool)
  deriving DecidableEq, Repr

def Kind.isKey : Kind → Bool
  | number _ | signed _ => true
  | value isKey => isKey

/-! ### Blanks -/

def isLineEnd (c : Char) : Bool := c == '\n' || c == '\r'

/-- The text after blanks and comments. Within brackets the ends of lines are blanks too. -/
def skip (inside : Bool) : Nat → List Char → List Char
  | 0, cs => cs
  | fuel + 1, cs =>
    match cs with
    | '\\' :: '\n' :: rest => skip inside fuel rest
    | '#' :: rest => skip inside fuel (rest.dropWhile (!isLineEnd ·))
    | c :: rest =>
      if c == ' ' || c == '\t' || c == '\x0c' || (inside && isLineEnd c) then skip inside fuel rest
      else c :: rest
    | [] => []

/-! ### Numbers -/

def isNameChar (c : Char) : Bool := c.isAlphanum || c == '_' || 0x80 ≤ c.toNat

/-- Digits, with single low lines between them, at the head of a text; one has to be there. -/
def digits? (isDigit : Char → Bool) (cs : List Char) : Option (List Char × List Char) :=
  let run := cs.takeWhile fun c => isDigit c || c == '_'
  let isClosed := run.getLast?.any isDigit && !(run.zip (run.drop 1)).contains ('_', '_')
  if run.head?.any isDigit && isClosed then some (run, cs.drop run.length) else none

/-- Passes a power of ten, if one with a digit is there. -/
def passExponent (cs : List Char) : Option (List Char) :=
  let read := fun (rest : List Char) => (digits? Char.isDigit rest).map Prod.snd
  match cs with
  | 'e' :: '-' :: rest | 'E' :: '-' :: rest | 'e' :: '+' :: rest | 'E' :: '+' :: rest
  | 'e' :: rest | 'E' :: rest => read rest
  | _ => none

def isOctal (c : Char) : Bool := '0' ≤ c && c ≤ '7'
def isBinary (c : Char) : Bool := c == '0' || c == '1'

/-- The number at the head of a text that starts with a digit, or with a point and a digit. Whole
numbers that start with a zero are zero, and no name may follow a number. -/
def number? (cs : List Char) : Option (Kind × List Char) :=
  let ended := fun (k : Kind) (rest : List Char) =>
    if rest.head?.any isNameChar then none else some (k, rest)
  let radix := fun (isDigit : Char → Bool) (rest : List Char) =>
    (digits? isDigit (if rest.head? = some '_' then rest.tail else rest)).bind fun r =>
      ended (.number false) r.2
  match cs with
  | '0' :: 'x' :: rest | '0' :: 'X' :: rest => radix (Json.Reader.hexValue? · |>.isSome) rest
  | '0' :: 'o' :: rest | '0' :: 'O' :: rest => radix isOctal rest
  | '0' :: 'b' :: rest | '0' :: 'B' :: rest => radix isBinary rest
  | cs =>
    let (whole, rest) := (digits? Char.isDigit cs).getD ([], cs)
    let (hasPoint, rest) := match rest with
      | '.' :: rest => (true, ((digits? Char.isDigit rest).map Prod.snd).getD rest)
      | rest => (false, rest)
    let (hasExponent, rest) := match passExponent rest with
      | some rest => (true, rest)
      | none => (false, rest)
    match rest with
    | 'j' :: rest | 'J' :: rest => ended (.number true) rest
    | rest =>
      let isPlain := whole.head? != some '0' || whole.all (· == '0')
      if hasPoint || hasExponent || (isPlain && whole.length ≤ maxIntegerDigits) then
        ended (.number false) rest
      else none

/-! ### Texts -/

/-- Passes hexadecimal digits of a given number. -/
def passHex (n : Nat) (cs : List Char) : Option (Nat × List Char) :=
  let ds := cs.take n
  if ds.length = n ∧ ds.all (Json.Reader.hexValue? · |>.isSome) then
    some (ds.foldl (fun m d => m * 16 + (Json.Reader.hexValue? d).getD 0) 0, cs.drop n)
  else none

/-- Passes what an escape needs after its letter. -/
def passEscape (isBytes : Bool) (letter : Char) (cs : List Char) : Option (List Char) :=
  if letter = 'x' then (passHex 2 cs).map Prod.snd
  else if isBytes then some cs
  else if letter = 'u' then (passHex 4 cs).map Prod.snd
  else if letter = 'U' then
    (passHex 8 cs).bind fun r => if r.1 ≤ 0x10ffff then some r.2 else none
  else if letter = 'N' then none
  else some cs

/-- Passes the characters of a text and the quotes at its end; the text may have several lines if
there are three quotes. -/
def passText (isRaw isBytes : Bool) (quotes : List Char) : Nat → List Char → Option (List Char)
  | 0, _ => none
  | fuel + 1, cs =>
    if quotes.isPrefixOf cs then some (cs.drop quotes.length)
    else
      match cs with
      | [] => none
      | '\\' :: c :: rest =>
        if isRaw then passText isRaw isBytes quotes fuel rest
        else do passText isRaw isBytes quotes fuel (← passEscape isBytes c rest)
      | c :: rest =>
        if (isLineEnd c && quotes.length = 1) || (isBytes && 0x80 ≤ c.toNat) then none
        else passText isRaw isBytes quotes fuel rest

def isQuote (c : Char) : Bool := c == '"' || c == '\''

/-- The letters in front of a quote at the head of a text, and the text from the quote. -/
def textLetters? (cs : List Char) : Option (String × List Char) :=
  let letters := cs.takeWhile Char.isAlpha
  let rest := cs.drop letters.length
  let marks := String.ofList (letters.map Char.toLower)
  if rest.head?.any isQuote ∧ marks ∈ ["", "r", "u", "b", "br", "rb"] then some (marks, rest)
  else none

/-- One text at the head of a text, and whether it is one of bytes. -/
def text? (cs : List Char) : Option (Bool × List Char) := do
  let (marks, rest) ← textLetters? cs
  let q ← rest.head?
  let quotes := if [q, q, q].isPrefixOf rest then [q, q, q] else [q]
  let isBytes := marks.toList.contains 'b'
  let rest ← passText (marks.toList.contains 'r') isBytes quotes rest.length (rest.drop quotes.length)
  pure (isBytes, rest)

/-- Texts side by side, which are one; bytes and characters do not mix. -/
def texts? (inside : Bool) (isBytes : Bool) : Nat → List Char → Option (Kind × List Char)
  | 0, cs => some (.value true, cs)
  | fuel + 1, cs =>
    let next := skip inside cs.length cs
    match textLetters? next with
    | none => some (.value true, cs)
    | some _ => do
      let (b, rest) ← text? next
      if b = isBytes then texts? inside isBytes fuel rest else none

/-! ### All literals -/

/-- A word for a constant, or an empty set. -/
def word? (inside : Bool) (cs : List Char) : Option (Kind × List Char) :=
  let word := cs.takeWhile isNameChar
  let rest := cs.drop word.length
  let name := String.ofList word
  if name = "True" ∨ name = "False" ∨ name = "None" then some (.value true, rest)
  else if name = "set" then
    match skip inside rest.length rest with
    | '(' :: rest =>
      match skip true rest.length rest with
      | ')' :: rest => some (.value false, rest)
      | _ => none
    | _ => none
  else none

/-- A sum of a number and an imaginary one, whose sign has been passed. -/
def sum? (left : Kind) (right : Option (Kind × List Char)) : Option (Kind × List Char) :=
  match left, right with
  | .number false, some (.number true, rest) | .signed false, some (.number true, rest) =>
    some (.value true, rest)
  | _, _ => none

mutual

/-- A literal without a sign. -/
def atom? (inside : Bool) : Nat → List Char → Option (Kind × List Char)
  | 0, _ => none
  | fuel + 1, cs =>
    match cs with
    | '(' :: rest =>
      match skip true rest.length rest with
      | ')' :: rest => some (.value true, rest)
      | rest => do
        let (k, rest) ← literal? true fuel rest
        match rest with
        | ')' :: rest => pure (k, rest)
        | rest => items? ')' fuel [k] rest
    | '\x7b' :: rest =>
      match skip true rest.length rest with
      | '\x7d' :: rest => some (.value false, rest)
      | rest => do
        let (k, rest) ← literal? true fuel rest
        match rest with
        | ':' :: _ => entries? fuel k rest
        | rest =>
          let (members, rest) ← items? '\x7d' fuel [k] rest
          if members.isKey then pure (.value false, rest) else none
    | '.' :: '.' :: '.' :: rest => some (.value true, rest)
    | cs =>
      match textLetters? cs with
      | some _ => do
        let (isBytes, rest) ← text? cs
        texts? inside isBytes rest.length rest
      | none =>
        if cs.head?.any Char.isDigit || (cs.head? == some '.' && cs.tail.head?.any Char.isDigit) then
          number? cs
        else word? inside cs

/-- A literal and the blanks after it. -/
def literal? (inside : Bool) : Nat → List Char → Option (Kind × List Char)
  | 0, _ => none
  | fuel + 1, cs => do
    let (left, rest) ←
      if cs.head? = some '-' ∨ cs.head? = some '+' then do
        match ← atom? inside fuel (skip inside cs.length cs.tail) with
        | (.number isImaginary, rest) => pure (Kind.signed isImaginary, rest)
        | _ => none
      else atom? inside fuel cs
    let rest := skip inside rest.length rest
    if rest.head? = some '-' ∨ rest.head? = some '+' then do
      let (k, rest) ← sum? left (atom? inside fuel (skip inside rest.length rest.tail))
      pure (k, skip inside rest.length rest)
    else pure (left, rest)

/-- The items of a collection after the first, up to its end. -/
def items? (last : Char) : Nat → List Kind → List Char → Option (Kind × List Char)
  | 0, _, _ => none
  | fuel + 1, kinds, cs =>
    let done := fun (rest : List Char) => some (Kind.value (kinds.all Kind.isKey), rest)
    match cs with
    | ',' :: rest =>
      let rest := skip true rest.length rest
      if rest.head? = some last then done rest.tail
      else do
        let (k, rest) ← literal? true fuel rest
        items? last fuel (k :: kinds) rest
    | c :: rest => if c = last then done rest else none
    | [] => none

/-- The entries of a table from a key on, up to its end. -/
def entries? : Nat → Kind → List Char → Option (Kind × List Char)
  | 0, _, _ => none
  | fuel + 1, key, cs =>
    match cs with
    | ':' :: rest => do
      let (_, rest) ← literal? true fuel (skip true rest.length rest)
      if !key.isKey then none
      else
        match rest with
        | '\x7d' :: rest => pure (.value false, rest)
        | ',' :: rest =>
          match skip true rest.length rest with
          | '\x7d' :: rest => pure (.value false, rest)
          | rest =>
            let (key, rest) ← literal? true fuel rest
            entries? fuel key rest
        | _ => none
    | _ => none

end

/-- Whether only blanks, comments and ends of lines are left. -/
def isEnd (cs : List Char) : Bool := (skip true cs.length cs).isEmpty

/-- Whether a text consists of literals with commas between them. -/
def isSequence : Nat → List Char → Bool
  | 0, _ => false
  | fuel + 1, cs =>
    match literal? false (4 * cs.length + 4) cs with
    | none => false
    | some (_, ',' :: rest) =>
      isEnd rest || isSequence fuel (skip false rest.length rest)
    | some (_, rest) => isEnd rest

end Screenwright.CommandLine.Literal

namespace Screenwright.CommandLine

/-- Whether a text is a literal, or several with commas between them. -/
def isLiteral (cs : List Char) : Bool :=
  Literal.isSequence (cs.length + 1) (Literal.skip true cs.length cs)

end Screenwright.CommandLine

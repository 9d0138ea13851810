/-! Blank characters, and texts without blanks at their ends. -/
namespace Screenwright.Text

/-- Whether a character is a blank: white space of any script, or one of the four separators that
precede the space in ASCII. -/
def isBlank (c : Char) : Bool :=
  let n := c.toNat
  (0x09 ≤ n && n ≤ 0x0d) || (0x1c ≤ n && n ≤ 0x20) || n == 0x85 || n == 0xa0 || n == 0x1680 ||
    (0x2000 ≤ n && n ≤ 0x200a) || n == 0x2028 || n == 0x2029 || n == 0x202f || n == 0x205f ||
    n == 0x3000

/-- Whether a character is white space, the ASCII separators not among it. -/
def isSpacing (c : Char) : Bool := isBlank c && !(0x1c ≤ c.toNat && c.toNat ≤ 0x1f)

/-- The text up to the last character that `p` refuses. -/
def dropEndWhile (p : Char → Bool) : List Char → List Char
  | [] => []
  | c :: rest =>
    match dropEndWhile p rest with
    | [] => if p c then [] else [c]
    | kept => c :: kept

/-- The text between the first and the last character that `p` refuses. -/
def trimWhile (p : Char → Bool) (cs : List Char) : List Char :=
  dropEndWhile p (cs.dropWhile p)

/-- A text without the blanks at its ends. -/
def strip (s : String) : String := String.ofList (trimWhile isBlank s.toList)

/-- A text without the blanks at its end. -/
def stripEnd (s : String) : String := String.ofList (dropEndWhile isBlank s.toList)

/-- Whether a text has a character that is not blank. -/
def hasInk (s : String) : Bool := s.toList.any (!isBlank ·)

/-- The maximal runs of characters that `p` refuses. -/
def wordsBy (p : Char → Bool) (cs : List Char) : List (List Char) :=
  (cs.splitBy fun a b => p a == p b).filter fun w => !w.any p

/-- Every maximal run of characters accepted by `p` is replaced by one character. -/
def squeeze (p : Char → Bool) (by_ : Char) : List Char → List Char
  | [] => []
  | c :: rest =>
    if p c then
      match rest with
      | [] => [by_]
      | d :: _ => if p d then squeeze p by_ rest else by_ :: squeeze p by_ rest
    else c :: squeeze p by_ rest

end Screenwright.Text

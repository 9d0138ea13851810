import Screenwright.Text.Blank

/-! Texts as lists of lines. -/
namespace Screenwright.Text

/-- The lines of a text; a text without a line break is one line. -/
def lines (s : String) : List String := (s.toList.splitOn '\n').map String.ofList

def unlines (ls : List String) : String := "\n".intercalate ls

def spaces (n : Nat) : String := String.ofList (List.replicate n ' ')

/-- Every line that is not blank moves right. -/
def indent (width : Nat) (s : String) : String :=
  unlines ((lines s).map fun l => if hasInk l then spaces width ++ l else l)

/-- Whether a text has more than one line. -/
def isMultiline (s : String) : Bool := s.toList.contains '\n'

/-- Line ends of other systems become line feeds. -/
def unixLineEnds : List Char → List Char
  | [] => []
  | '\r' :: '\n' :: rest => '\n' :: unixLineEnds rest
  | '\r' :: rest => '\n' :: unixLineEnds rest
  | c :: rest => c :: unixLineEnds rest

end Screenwright.Text

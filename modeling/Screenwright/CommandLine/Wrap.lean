import Screenwright.Text.CellWidth
import Screenwright.Text.Lines

/-! Texts in columns of a console: how wide they want to be, and their lines within a width. -/
namespace Screenwright.CommandLine

/-- Whether a character ends a line as far as widths are concerned. -/
def endsLine (c : Char) : Bool :=
  let n := c.toNat
  (0x0a ≤ n && n ≤ 0x0d) || (0x1c ≤ n && n ≤ 0x1e) || n == 0x85 || n == 0x2028 || n == 0x2029

/-- The cells of the widest line of a text. -/
def wantedWidth (s : String) : Nat :=
  ((s.toList.splitOnP endsLine).map fun l => Text.cells (String.ofList l)).foldl max 0

def tabWidth : Nat := 8

/-- The spaces from a tab, with which `used` cells are taken, to the next stop. -/
def tabSpaces (used : Nat) : Nat := (tabWidth - used % tabWidth) % tabWidth

/-- The parts of a line between its tabs side by side, spaces leading from each to a tab stop. -/
def joinTabbed (used : Nat) : List String → String
  | [] => ""
  | [part] => part
  | part :: rest =>
    let used := used + Text.cells part + 1
    part ++ Text.spaces (tabSpaces used + 1) ++ joinTabbed (used + tabSpaces used) rest

/-- A line with spaces for its tabs. -/
def withoutTabs (line : String) : String :=
  joinTabbed 0 ((line.toList.splitOn '\t').map String.ofList)

/-- The words of a line, each with the blanks after it, and the first with those before it too. -/
def wordsOf (line : String) : List String :=
  let cs := line.toList
  let lead := cs.takeWhile Text.isBlank
  let groups := (cs.drop lead.length).splitBy fun a b => !Text.isBlank a || Text.isBlank b
  match groups with
  | [] => []
  | g :: gs => ((lead ++ g) :: gs).map String.ofList

/-- The words of each line when they are filled into a width; `used` cells are taken by the words
of the line that has begun, the last first. A word that is wider than a line has one of its own. -/
def fillLines (width used : Nat) (begun : List String) : List String → List (List String)
  | [] => [begun.reverse]
  | word :: rest =>
    if used + Text.cells (Text.stripEnd word) ≤ width ∨ begun.isEmpty then
      fillLines width (used + Text.cells word) (word :: begun) rest
    else begun.reverse :: fillLines width (Text.cells word) [word] rest

/-- The first clusters that fit into a width; a space stands for half of one. -/
def cropped (width : Nat) : List Text.Cluster → String
  | [] => ""
  | k :: rest =>
    if k.width ≤ width then String.ofList k.chars ++ cropped (width - k.width) rest
    else Text.spaces width

/-- A line without the blanks at its end that go beyond a number of characters. -/
def withoutExcess (width : Nat) (line : String) : String :=
  let blanks := line.length - (Text.stripEnd line).length
  String.ofList (line.toList.take (line.length - min blanks (line.length - width)))

/-- A line of a width: spaces fill it, and an ellipsis stands for what does not fit. -/
def fitted (width : Nat) (line : String) : String :=
  if width < Text.cells line then cropped (width - 1) (Text.clusters line) ++ "…"
  else line ++ Text.spaces (width - Text.cells line)

/-- The lines of a line that is wrapped to a width. -/
def wrapLine (width : Nat) (line : String) : List String :=
  let line := withoutTabs line
  let lines := match wordsOf line with
    | [] => [line]
    | words => (fillLines width 0 [] words).map String.join
  lines.map fun l => fitted width (withoutExcess width l)

/-- The lines of a text in a column of a width. -/
def wrap (width : Nat) (s : String) : List String := (Text.lines s).flatMap (wrapLine width)

end Screenwright.CommandLine

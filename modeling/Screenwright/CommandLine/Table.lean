import Screenwright.CommandLine.Wrap

/-! Tables on a console: a title above a frame, a row of headings and rows of cells. -/
namespace Screenwright.CommandLine

/-- A column of a table. -/
structure Column where
  heading : String
  cells : List String
  deriving DecidableEq, Repr

structure Table where
  title : String
  columns : List Column
  deriving DecidableEq, Repr

/-- The characters of a line of a frame: its ends, its filling and what stands between columns. -/
structure Rule where
  first : String
  filling : String
  between : String
  last : String

namespace Table

/-- The width of a console. -/
def consoleWidth : Nat := 2000

def topRule : Rule := ⟨"┏", "━", "┳", "┓"⟩
def headingRule : Rule := ⟨"┡", "━", "╇", "┩"⟩
def bottomRule : Rule := ⟨"└", "─", "┴", "┘"⟩

/-- The edges between the cells of headings, and between those of rows. -/
def headingEdge : String := "┃"
def rowEdge : String := "│"

/-- The spaces on the two sides of a cell. -/
def padding : Nat := 2

/-- The width that a column wants, its padding included. -/
def wanted (c : Column) : Nat :=
  ((c.heading :: c.cells).map wantedWidth).foldl max 0 + padding

/-- The nearest whole number of a quotient, an even one where two are as near. -/
def roundedQuotient (n d : Nat) : Nat :=
  let q := n / d
  if 2 * (n % d) < d then q else if 2 * (n % d) = d then q + q % 2 else q + 1

/-- Takes an excess off all widths that are the widest, each giving at most `most`; `sharing` of
them are left. -/
def reduceWidest (widest most : Nat) (excess sharing : Nat) : List Nat → List Nat
  | [] => []
  | w :: ws =>
    if w = widest then
      let given := min most (roundedQuotient excess sharing)
      (w - given) :: reduceWidest widest most (excess - given) (sharing - 1) ws
    else w :: reduceWidest widest most excess sharing ws

def totalWidth (widths : List Nat) : Nat := widths.foldl (· + ·) 0

/-- Widths that together take no more than a limit: the widest give way, down to the next. Each round
takes at least one off. -/
def collapse (limit : Nat) : Nat → List Nat → List Nat
  | 0, widths => widths
  | fuel + 1, widths =>
    let excess := totalWidth widths - limit
    if excess = 0 then widths
    else
      let widest := widths.foldl max 0
      let next := (widths.filter (· != widest)).foldl max 0
      collapse limit fuel (reduceWidest widest (min excess (widest - next)) excess
        (widths.count widest) widths)

/-- The cells between and around the columns of a frame. -/
def edgeWidth (t : Table) : Nat := t.columns.length + 1

/-- The widths of the columns with their padding. -/
def columnWidths (t : Table) : List Nat :=
  let limit := consoleWidth - t.edgeWidth
  let widths := t.columns.map fun c => min (wanted c) limit
  collapse limit (totalWidth widths) widths

def frameWidth (t : Table) : Nat := totalWidth t.columnWidths + t.edgeWidth

/-- A text in the middle of a line; of an odd number of spaces the last stands on the right. -/
def centered (width : Nat) (s : String) : String :=
  let excess := width - Text.cells s
  Text.spaces (excess / 2) ++ s ++ Text.spaces (excess - excess / 2)

def ruleLine (r : Rule) (widths : List Nat) : String :=
  r.first ++ r.between.intercalate (widths.map fun w =>
    String.join (List.replicate w r.filling)) ++ r.last

/-- A line of cells that have one line each. -/
def cellLine (edge : String) (cells : List String) : String :=
  edge ++ edge.intercalate (cells.map fun c => " " ++ c ++ " ") ++ edge

/-- The lines of a row; it is as high as its highest cell. -/
def rowLines (edge : String) (widths : List Nat) (row : List String) : List String :=
  let cells := List.zipWith (fun w c => (w - padding, wrap (w - padding) c)) widths row
  let height := (cells.map (·.2.length)).foldl max 1
  (List.range height).map fun i =>
    cellLine edge (cells.map fun c => (c.2[i]?).getD (Text.spaces c.1))

/-- The cells of a table by rows. -/
def rows (t : Table) : List (List String) :=
  let height := (t.columns.map (·.cells.length)).foldl max 0
  (List.range height).map fun i => t.columns.map fun c => (c.cells[i]?).getD ""

def lines (t : Table) : List String :=
  let widths := t.columnWidths
  centered t.frameWidth t.title :: ruleLine topRule widths ::
    (rowLines headingEdge widths (t.columns.map (·.heading)) ++
      ruleLine headingRule widths :: (t.rows.flatMap (rowLines rowEdge widths) ++
        [ruleLine bottomRule widths]))

end Table
end Screenwright.CommandLine

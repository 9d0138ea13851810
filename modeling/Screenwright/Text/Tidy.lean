import Screenwright.Text.Lines

/-! Tidy texts: generated files in one normal form, so that a file on disk is compared by what it
says. -/
namespace Screenwright.Text

/-- The endings of files whose white space is ours. -/
def sourceSuffixes : List String := [".tsx", ".ts", ".vue", ".svelte", ".html", ".js", ".css"]

def hasSuffix (suffix s : String) : Bool := suffix.toList.isSuffixOf s.toList

/-- Lines of which no two in a row are empty. -/
def collapseEmpty : List (List Char) → List (List Char)
  | [] => []
  | l :: ls =>
    match l, collapseEmpty ls with
    | [], [] :: rest => [] :: rest
    | l, rest => l :: rest

def dropEmptyEnds (ls : List (List Char)) : List (List Char) :=
  dropLast (ls.dropWhile List.isEmpty)
where
  /-- Lines up to the last one that is not empty. -/
  dropLast : List (List Char) → List (List Char)
    | [] => []
    | l :: ls =>
      match dropLast ls with
      | [] => if l.isEmpty then [] else [l]
      | kept => l :: kept

/-- The lines of a tidy source text. -/
def tidyLines (cs : List Char) : List (List Char) :=
  dropEmptyEnds (collapseEmpty ((cs.splitOn '\n').map (dropEndWhile isBlank)))

def joinLines (ls : List (List Char)) : List Char := ['\n'].intercalate ls

/-- The normal form of a generated file: line feeds only, and one at the end. In source files no
line ends in a blank, no two empty lines meet, and none stands at either end. -/
def tidy (contents path : String) : String :=
  let cs := unixLineEnds contents.toList
  if sourceSuffixes.any (hasSuffix · path) then
    String.ofList (joinLines (tidyLines cs) ++ ['\n'])
  else String.ofList (if cs.getLast? = some '\n' then cs else cs ++ ['\n'])

end Screenwright.Text

import Screenwright.Json.Basic
import Screenwright.Text.Alphanumeric
import Screenwright.Text.Blank
import Screenwright.Text.LetterCase

/-! Names of new screens, and the titles, routes and documents made from them. -/
namespace Screenwright.ScreenName

/-- What is wrong with a screen name. -/
inductive Fault where
  | blank
  | malformed (name : String)
  deriving DecidableEq, Repr

def Fault.message : Fault → String
  | .blank => "Screen name is required"
  | .malformed name =>
    s!"Invalid screen name '{name}'. Use letters, numbers, hyphens, or underscores"

def isNameChar (c : Char) : Bool := c.isAlphanum || c == '_' || c == '-'

/-- A name is a letter followed by letters, digits, hyphens and low lines. -/
def isWellFormed (name : String) : Bool :=
  match name.toList with
  | [] => false
  | c :: rest => c.isAlpha && rest.all isNameChar

def check (name : String) : Option Fault :=
  if !Text.hasInk name then some .blank
  else if isWellFormed name then none
  else some (.malformed name)

def isWordChar (c : Char) : Bool := Text.isAlphanumeric c || c == '_'

/-- A text whose words start with capitals; `inside` tells whether a word has begun. -/
def titleCase (inside : Bool) : List Char → List Char
  | [] => []
  | c :: rest =>
    if isWordChar c then (if inside then [c] else Text.upperChar c) ++ titleCase true rest
    else c :: titleCase false rest

/-- The heading of a screen: its words apart and with capitals. -/
def title (name : String) : String :=
  String.ofList (titleCase false (name.toList.map fun c => if c == '-' || c == '_' then ' ' else c))

/-- A hyphen between each small letter and a capital after it. -/
def splitHumps : List Char → List Char
  | [] => []
  | [c] => [c]
  | c :: d :: rest =>
    if c.isLower && d.isUpper then c :: '-' :: splitHumps (d :: rest)
    else c :: splitHumps (d :: rest)

/-- The route of a screen: its words in small letters with hyphens between them. -/
def route (name : String) : String :=
  "/" ++ Text.lower (String.ofList
    (Text.squeeze (fun c => c == '_' || Text.isBlank c) '-' (splitHumps name.toList)))

/-- The document with which a screen starts: a padded stack with the title as heading. -/
def template (name : String) : Json :=
  .obj [
    ("version", .int 1),
    ("route", .str (route name)),
    ("meta", .obj [("layout", .str "default"), ("auth", .str "public")]),
    ("tree", .obj [
      ("id", .str "root"),
      ("type", .str "Stack"),
      ("props", .obj [("gap", .str "md"), ("padding", .str "lg")]),
      ("children", .arr [.obj [
        ("id", .str "heading_1"),
        ("type", .str "Heading"),
        ("props", .obj [("text", .str (title name))])]])])]

end Screenwright.ScreenName

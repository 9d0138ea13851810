import Screenwright.Text.Blank
import Screenwright.Text.LetterCase
import Screenwright.Text.Quoted

/-! Names in generated code: components from routes, and variables from ids and state names. -/
namespace Screenwright.Emit

def isAsciiWord (c : Char) : Bool := c.isAlphanum

/-- The words of a text: its runs of ASCII letters and digits. -/
def words (s : String) : List (List Char) := Text.wordsBy (!isAsciiWord ·) s.toList

def capitalize : List Char → List Char
  | [] => []
  | c :: rest => c.toUpper :: rest

/-- The name of the component of a route: its words with capitals. A name that would start with a
digit gets a word in front, and a route without words is the home screen. -/
def componentName (route : String) : String :=
  match (words route).flatMap capitalize with
  | [] => "Home"
  | c :: rest =>
    String.ofList (if c.isDigit then "Screen".toList ++ c :: rest else c :: rest)

def isIdentifierChar (c : Char) : Bool := c.isAlphanum || c == '_' || c == '$'

/-- A script identifier from a text: every run of other characters becomes a low line, and low
lines at the ends are dropped. -/
def identifier (s : String) : String :=
  match Text.trimWhile (· == '_') (Text.squeeze (!isIdentifierChar ·) '_' s.toList) with
  | [] => "state"
  | c :: rest => String.ofList (if c.isDigit then '_' :: c :: rest else c :: rest)

/-- The name of the setter of a variable; there is none for an empty name. -/
def setterName? (name : String) : Option String :=
  match name.toList with
  | [] => none
  | cs => some ("set" ++ String.ofList (Text.capitalizeFirst cs))

/-- The name of the setter of a variable. -/
def setterName (name : String) : String := (setterName? name).getD "set"

/-- The variable that holds whether a node is shown. -/
def visibilityVar (id : String) : String := identifier id ++ "Visible"

/-- The variable of a state name. -/
def stateVar (name : String) : String :=
  "state" ++ String.ofList (capitalize (identifier name).toList)

/-- The variable that holds the rows of a node. -/
def rowsVar (id : String) : String := identifier id ++ "Rows"

end Screenwright.Emit

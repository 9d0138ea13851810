import Screenwright.CommandLine.Literal
import Screenwright.CommandLine.Style
import Screenwright.Text.Alphanumeric
import Screenwright.Text.Emoji
import Screenwright.Text.Quoted

/-! Console markup: texts with tags in brackets, and what is left of them on a console without
styles. -/
namespace Screenwright.CommandLine.Markup

/-- A tag by its name, a slash in front of which closes it, and what stands after an equals sign. -/
structure Tag where
  name : List Char
  parameters : List Char
  deriving DecidableEq, Repr

/-- A piece of a marked text. -/
inductive Piece where
  | plain (cs : List Char)
  | tag (t : Tag)
  deriving DecidableEq, Repr

/-- The tag of what stands between brackets. -/
def Tag.ofText (cs : List Char) : Tag :=
  ⟨cs.takeWhile (· != '='), (cs.dropWhile (· != '=')).drop 1⟩

def startsTag (c : Char) : Bool := c.isLower || c == '#' || c == '/' || c == '@'

/-- What stands between an opening bracket, just passed, and the first closing one, if that makes a
tag. -/
def tagText? (cs : List Char) : Option (List Char) :=
  match cs with
  | [] => none
  | c :: _ =>
    let text := cs.takeWhile fun c => c != ']' && c != '['
    if startsTag c && (cs.drop text.length).head? == some ']' then some text else none

/-- The pieces of a tag and the text before it, given from its end. Of the backslashes right before
the tag each two stand for one, and an odd one makes the tag plain. -/
def taggedPieces (before text : List Char) : List Piece :=
  let backslashes := (before.takeWhile (· == '\\')).length
  [.plain (before.drop backslashes).reverse, .plain (List.replicate (backslashes / 2) '\\'),
    if backslashes % 2 = 1 then .plain ('[' :: text ++ [']']) else .tag (.ofText text)]

/-- The pieces of a marked text. `before` is the text after the last tag, given from its end, and
`skip` characters belong to a tag that was found. -/
def piecesFrom (before : List Char) : Nat → List Char → List Piece
  | _, [] => [.plain before.reverse]
  | skip + 1, _ :: rest => piecesFrom before skip rest
  | 0, c :: rest =>
    match if c = '[' then tagText? rest else none with
    | some text => taggedPieces before text ++ piecesFrom [] (text.length + 1) rest
    | none => piecesFrom (c :: before) 0 rest

def pieces (s : String) : List Piece := piecesFrom [] 0 s.toList

/-- A bracket that makes no tag may have a backslash before it, which is left out. -/
def plainBrackets : List Char → List Char
  | [] => []
  | '\\' :: '[' :: rest => '[' :: plainBrackets rest
  | c :: rest => c :: plainBrackets rest

/-- Whether a control character is left out on a console. -/
def isDropped (c : Char) : Bool := [7, 8, 11, 12, 13].contains c.toNat

/-- A plain piece as it is shown. -/
def shownPlain (cs : List Char) : List Char :=
  (Text.replaceEmoji 0 (plainBrackets cs)).filter (!isDropped ·)

/-- Why a marked text cannot be shown. -/
inductive Fault where
  /-- A tag is closed that is not open. -/
  | notOpen (name : String)
  /-- What a handler is called with is no literal. -/
  | parameters (text : String)
  | color (name : String)
  deriving DecidableEq, Repr

def Fault.message : Fault → String
  | notOpen name => s!"closing tag '[/{name}]' doesn't match any open tag"
  | parameters text => "error parsing " ++ Text.show_ text
  | color name => "invalid number in " ++ Text.show_ name

/-- The name under which tags are compared. -/
def tagKey (cs : List Char) : Except Fault String :=
  (styleKey (String.ofList cs)).mapError fun _ => .color (String.ofList cs)

/-- What the parameters of a handler have to be a literal of: what stands in the brackets behind the
handler's name, or all where there is no such name. -/
def literalOf (parameters : List Char) : List Char :=
  let cs := Text.trimWhile Text.isBlank parameters
  let name := cs.takeWhile fun c => Text.isAlphanumeric c || c == '_' || c == '.'
  match cs.drop name.length with
  | [] => ['(', ')']
  | '(' :: rest => if rest.getLast? = some ')' ∧ '\n' ∉ rest then '(' :: rest else cs
  | _ => cs

/-- Checks the parameters of a tag that is being closed. -/
def checkParameters (t : Tag) : Except Fault Unit :=
  if t.name.head? = some '@' ∧ t.parameters ≠ [] ∧ !isLiteral (literalOf t.parameters) then
    .error (.parameters (String.ofList t.parameters))
  else .ok ()

/-- Takes the first tag of a name out of the open ones. -/
def close (name : String) : List Tag → Except Fault (Tag × List Tag)
  | [] => .error (.notOpen name)
  | t :: ts =>
    if name = "" ∨ String.ofList t.name = name then .ok (t, ts)
    else (close name ts).map fun r => (r.1, t :: r.2)

/-- The open tags, the last first, after a tag. The empty name closes the last one. -/
def afterTag (opened : List Tag) (t : Tag) : Except Fault (List Tag) :=
  match t.name with
  | '/' :: name => do
    let name := Text.trimWhile Text.isBlank name
    let (closed, rest) ← close (← if name.isEmpty then .ok "" else tagKey name) opened
    checkParameters closed
    pure rest
  | name => do pure ({ t with name := (← tagKey name).toList } :: opened)

/-- The characters of pieces without their tags, `opened` being the open tags, the last first. -/
def plainFrom (opened : List Tag) : List Piece → Except Fault (List Char)
  | [] => .ok []
  | .plain cs :: rest => (plainFrom opened rest).map (shownPlain cs ++ ·)
  | .tag t :: rest => do plainFrom (← afterTag opened t) rest

/-- The plain text of a marked one. -/
def plain (s : String) : Except Fault String :=
  (plainFrom [] (pieces s)).map String.ofList

end Screenwright.CommandLine.Markup

import Screenwright.Json.Basic
import Screenwright.Number.Decimal
import Screenwright.Text.Quoted

/-! Texts of JSON values: script literals on one line, indented documents, and the texts shown to
readers in messages and generated content. -/
namespace Screenwright.Json

/-- The entries of a list or object between brackets, separated by a comma and a blank. -/
def bracketed (first last : String) (entries : List String) : String :=
  first ++ ", ".intercalate entries ++ last

mutual

/-- A value as a literal of a script. -/
def literal : Json → String
  | .null => "null"
  | .bool b => if b then "true" else "false"
  | .int n => toString n
  | .float x => x.toLiteral
  | .str s => Text.quoteDouble s
  | .arr xs => bracketed "[" "]" (literalItems xs)
  | .obj fs => bracketed "\x7b" "\x7d" (literalFields fs)

def literalItems : List Json → List String
  | [] => []
  | x :: xs => literal x :: literalItems xs

def literalFields : List (String × Json) → List String
  | [] => []
  | (k, v) :: fs => (Text.quoteDouble k ++ ": " ++ literal v) :: literalFields fs

end

mutual

/-- A value as it is shown inside another one: texts are quoted. -/
def shown : Json → String
  | .null => "None"
  | .bool b => if b then "True" else "False"
  | .int n => toString n
  | .float x => x.toText
  | .str s => Text.show_ s
  | .arr xs => bracketed "[" "]" (shownItems xs)
  | .obj fs => bracketed "\x7b" "\x7d" (shownFields fs)

def shownItems : List Json → List String
  | [] => []
  | x :: xs => shown x :: shownItems xs

def shownFields : List (String × Json) → List String
  | [] => []
  | (k, v) :: fs => (Text.show_ k ++ ": " ++ shown v) :: shownFields fs

end

/-- A value as it is shown on its own: a text stands as it is. -/
def text : Json → String
  | .str s => s
  | j => shown j

/-- A value shown on its own, nothing being shown for null. -/
def textOrEmpty : Json → String
  | .null => ""
  | j => text j

/-- A list or object over several lines, its entries one step deeper than its brackets. -/
def block (first last : String) (depth : Nat) (entries : List String) : String :=
  match entries with
  | [] => first ++ last
  | _ =>
    let newline := "\n" ++ String.ofList (List.replicate (2 * depth + 2) ' ')
    first ++ newline ++ ("," ++ newline).intercalate entries ++
      "\n" ++ String.ofList (List.replicate (2 * depth) ' ') ++ last

mutual

/-- A value as an indented document in printable ASCII. -/
def document (depth : Nat) : Json → String
  | .null => "null"
  | .bool b => if b then "true" else "false"
  | .int n => toString n
  | .float x => x.toLiteral
  | .str s => Text.quoteAscii s
  | .arr xs => block "[" "]" depth (documentItems (depth + 1) xs)
  | .obj fs => block "\x7b" "\x7d" depth (documentFields (depth + 1) fs)

def documentItems (depth : Nat) : List Json → List String
  | [] => []
  | x :: xs => document depth x :: documentItems depth xs

def documentFields (depth : Nat) : List (String × Json) → List String
  | [] => []
  | (k, v) :: fs =>
    (Text.quoteAscii k ++ ": " ++ document depth v) :: documentFields depth fs

end

mutual

/-- A value on one line in printable ASCII. -/
def asciiLine : Json → String
  | .null => "null"
  | .bool b => if b then "true" else "false"
  | .int n => toString n
  | .float x => x.toLiteral
  | .str s => Text.quoteAscii s
  | .arr xs => bracketed "[" "]" (asciiItems xs)
  | .obj fs => bracketed "\x7b" "\x7d" (asciiFields fs)

def asciiItems : List Json → List String
  | [] => []
  | x :: xs => asciiLine x :: asciiItems xs

def asciiFields : List (String × Json) → List String
  | [] => []
  | (k, v) :: fs => (Text.quoteAscii k ++ ": " ++ asciiLine v) :: asciiFields fs

end

end Screenwright.Json

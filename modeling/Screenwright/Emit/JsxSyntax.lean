import Screenwright.Json.Text
import Screenwright.Text.Alphanumeric
import Screenwright.Text.Lines

/-! Elements, attributes and object literals of script markup. -/
namespace Screenwright.Emit

/-- A text in braces. -/
def braced (s : String) : String := "\x7b" ++ s ++ "\x7d"

/-- The characters of a text that may stand in an attribute without an expression. -/
def isPlainAttributeChar (c : Char) : Bool :=
  c.isAlphanum || " -_./:#%,()".toList.contains c

/-- An attribute: a plain text in quotes, `true` as the bare name, anything else an expression. -/
def jsxAttr (name : String) (value : Json) : String :=
  match value with
  | .bool true => name
  | .str s =>
    if s.toList.all isPlainAttributeChar then s!"{name}=\"{s}\""
    else name ++ "=" ++ braced value.literal
  | value => name ++ "=" ++ braced value.literal

def textAttr (name value : String) : String := jsxAttr name (.str value)

/-- Whether a key may stand in an object literal without quotes. -/
def isBareKey (key : String) : Bool :=
  match key.toList with
  | [] => false
  | c :: rest =>
    (c :: rest).all (fun d => d == '_' || Text.isAlphanumeric d) && !Text.isDigitForm c

/-- An object literal with bare keys where they are possible. -/
def objectLiteral (fs : Fields Json) : String :=
  match fs with
  | [] => "\x7b\x7d"
  | fs =>
    let entries := fs.map fun e =>
      (if isBareKey e.1 then e.1 else Text.quoteDouble e.1) ++ ": " ++ e.2.literal
    "\x7b " ++ ", ".intercalate entries ++ " \x7d"

def jsxOpening (tag : String) (attrs : List String) : String :=
  "<" ++ " ".intercalate (tag :: attrs)

/-- An element; an empty body closes it at once. -/
def jsxElement (tag : String) (attrs : List String) (body : String) : String :=
  if body = "" then jsxOpening tag attrs ++ " />"
  else jsxOpening tag attrs ++ ">\n" ++ Text.indent 2 body ++ s!"\n</{tag}>"

/-- An element on one line. -/
def jsxInline (tag : String) (attrs : List String) (body : String) : String :=
  if body = "" then jsxOpening tag attrs ++ " />"
  else jsxOpening tag attrs ++ ">" ++ body ++ s!"</{tag}>"

/-- Markup that is rendered only while all conditions hold. -/
def jsxConditional (conditions : List String) (markup : String) : String :=
  braced (" && ".intercalate conditions ++ " && (\n" ++ Text.indent 2 markup ++ "\n)")

/-- The style attribute of an object that is not empty. -/
def styleAttr (fs : Fields Json) : List String :=
  if fs.isEmpty then [] else ["style=" ++ braced (objectLiteral fs)]

end Screenwright.Emit

/-! Character entities: texts made safe for markup, in three dialects. -/
namespace Screenwright.Text

/-- The entity of a character that markup gives a meaning. -/
def markupChar (c : Char) : List Char :=
  if c = '&' then "&amp;".toList
  else if c = '<' then "&lt;".toList
  else if c = '>' then "&gt;".toList
  else if c = '"' then "&quot;".toList
  else [c]

/-- The entity of a character in templates where braces enclose expressions. -/
def bracedChar (c : Char) : List Char :=
  if c = '\x7b' then "&#123;".toList
  else if c = '\x7d' then "&#125;".toList
  else markupChar c

/-- Two opening braces in a row become entities, from left to right. -/
def mustacheChars : List Char → List Char
  | [] => []
  | [c] => markupChar c
  | c :: d :: rest =>
    if c = '\x7b' ∧ d = '\x7b' then "&#123;&#123;".toList ++ mustacheChars rest
    else markupChar c ++ mustacheChars (d :: rest)

/-- Text for plain markup. -/
def escapeMarkup (s : String) : String := String.ofList (s.toList.flatMap markupChar)

/-- Text for templates with expressions in braces. -/
def escapeBraced (s : String) : String := String.ofList (s.toList.flatMap bracedChar)

/-- Text for templates with expressions in double braces. -/
def escapeMustache (s : String) : String := String.ofList (mustacheChars s.toList)

end Screenwright.Text

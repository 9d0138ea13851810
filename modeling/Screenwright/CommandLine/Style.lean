import Screenwright.CommandLine.Color
import Screenwright.Text.Blank

/-! Styles as console markup names them, and the one name by which equal styles are compared. -/
namespace Screenwright.CommandLine

/-- The attributes of a text on a console. -/
inductive StyleAttribute where
  | bold | dim | italic | underline | blink | blink2 | reverse | conceal | strike | underline2
  | frame | encircle | overline
  deriving DecidableEq, Repr

namespace StyleAttribute

def all : List StyleAttribute :=
  [bold, dim, italic, underline, blink, blink2, reverse, conceal, strike, underline2, frame,
    encircle, overline]

def name : StyleAttribute → String
  | bold => "bold"
  | dim => "dim"
  | italic => "italic"
  | underline => "underline"
  | blink => "blink"
  | blink2 => "blink2"
  | reverse => "reverse"
  | conceal => "conceal"
  | strike => "strike"
  | underline2 => "underline2"
  | frame => "frame"
  | encircle => "encircle"
  | overline => "overline"

def shortName? : StyleAttribute → Option String
  | bold => some "b"
  | dim => some "d"
  | italic => some "i"
  | underline => some "u"
  | reverse => some "r"
  | conceal => some "c"
  | strike => some "s"
  | underline2 => some "uu"
  | overline => some "o"
  | blink | blink2 | frame | encircle => none

/-- The attribute of a long or a short name. -/
def ofName? (s : String) : Option StyleAttribute :=
  all.find? fun a => a.name == s || a.shortName? == some s

end StyleAttribute

/-- A style: attributes that are on or off, two colours and the target of a link. -/
structure Style where
  attributes : List (StyleAttribute × Bool) := []
  color : Option String := none
  ground : Option String := none
  link : Option String := none
  deriving DecidableEq, Repr

/-- Why words name no style. A number without digits cannot even be refused. -/
abbrev StyleFault := ColorFault

namespace Style

/-- A style with an attribute, whose last setting counts. -/
def withAttribute (s : Style) (a : StyleAttribute) (isOn : Bool) : Style :=
  { s with attributes := (a, isOn) :: s.attributes.filter (·.1 != a) }

/-- Adds what words name to a style. -/
def ofWordsFrom (s : Style) : List String → Except StyleFault Style
  | [] => .ok s
  | word :: rest =>
    let lowered := Text.lower word
    if lowered = "on" ∨ lowered = "not" ∨ lowered = "link" then
      match rest with
      | [] => .error .unknown
      | next :: rest =>
        if lowered = "on" then do
          checkColor (Text.lower next)
          ofWordsFrom { s with ground := some (Text.lower next) } rest
        else if lowered = "not" then
          match StyleAttribute.ofName? next with
          | some a => ofWordsFrom (s.withAttribute a false) rest
          | none => .error .unknown
        else ofWordsFrom { s with link := some next } rest
    else
      match StyleAttribute.ofName? lowered with
      | some a => ofWordsFrom (s.withAttribute a true) rest
      | none => do
        checkColor lowered
        ofWordsFrom { s with color := some lowered } rest

/-- The style that a text names. -/
def ofText (text : String) : Except StyleFault Style :=
  if Text.strip text = "none" then .ok {}
  else ofWordsFrom {} ((Text.wordsBy Text.isBlank text.toList).map String.ofList)

/-- The words of an attribute as it is set, if it is. -/
def attributeWord? (s : Style) (a : StyleAttribute) : Option String :=
  (s.attributes.lookup a).map fun isOn => if isOn then a.name else "not " ++ a.name

/-- The name of a style; equal styles have equal names. -/
def name (s : Style) : String :=
  match StyleAttribute.all.filterMap s.attributeWord? ++ s.color.toList ++
      (s.ground.map ("on " ++ ·)).toList ++ (s.link.map ("link " ++ ·)).toList with
  | [] => "none"
  | words => " ".intercalate words

end Style

/-- The name under which a text is compared: that of its style, or the text itself in small letters
where it names none. -/
def styleKey (text : String) : Except StyleFault String :=
  match Style.ofText text with
  | .ok s => .ok s.name
  | .error .unknown => .ok (Text.lower (Text.strip text))
  | .error .missingNumber => .error .missingNumber

end Screenwright.CommandLine

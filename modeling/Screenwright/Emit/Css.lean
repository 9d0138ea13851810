import Screenwright.Document.Tree
import Screenwright.Emit.Analysis
import Screenwright.Tokens

/-! Style sheets: declarations of styles, and rules for narrower screens. -/
namespace Screenwright.Emit

/-- A hyphen before each capital that follows a small letter accepted by `before`. -/
def hyphenate (before : Char → Bool) : List Char → List Char
  | [] => []
  | [c] => [c]
  | c :: d :: rest =>
    if before c && d.isUpper then c :: '-' :: hyphenate before (d :: rest)
    else c :: hyphenate before (d :: rest)

/-- The hyphenated form of a name in camel case. -/
def kebab (s : String) : String :=
  Text.lower (String.ofList (hyphenate (fun c => c.isLower || c.isDigit) s.toList))

/-- Properties whose numbers have no unit. -/
def unitless : List String :=
  ["fontWeight", "lineHeight", "opacity", "zIndex", "flexGrow", "flexShrink"]

/-- The value of a property in a style sheet; numbers are in pixels. -/
def cssValue (property : String) (value : Json) : String :=
  match value with
  | .int _ | .float _ => if unitless.contains property then value.text else value.text ++ "px"
  | value => value.text

/-- The declarations of a style, token references resolved. -/
def cssProperties (style : Option NodeStyle) (tokens : Option Tokens) : Fields String :=
  (resolveStyle style tokens).map fun e => (kebab e.1.name, cssValue e.1.name e.2.toJson)

def declaration (e : String × String) : String := e.1 ++ ": " ++ e.2

/-- Declarations in one attribute. -/
def inlineCss (declarations : Fields String) : String :=
  "; ".intercalate (declarations.map declaration)

/-- The widths below which overrides apply, widest first. -/
inductive Breakpoint where
  | tablet
  | mobile
  deriving DecidableEq, Repr

namespace Breakpoint

def all : List Breakpoint := [tablet, mobile]

def name : Breakpoint → String
  | tablet => "tablet"
  | mobile => "mobile"

def maxWidth : Breakpoint → Nat
  | tablet => 1024
  | mobile => 640

def style? (b : Breakpoint) (r : ResponsiveStyle) : Option NodeStyle :=
  match b with
  | tablet => r.tablet
  | mobile => r.mobile

end Breakpoint

/-- The attribute that marks the nodes of responsive rules. -/
def nodeAttribute : String := "data-ss"

def nodeSelector (id : String) : String := "[" ++ nodeAttribute ++ "=\"" ++ id ++ "\"]"

/-- The rule of one element at a breakpoint, if it declares anything. -/
def responsiveRule? (tokens : Option Tokens) (selector : String → String) (b : Breakpoint)
    (e : Element) : Option String :=
  match cssProperties (e.responsive.bind b.style?) tokens with
  | [] => none
  | declarations =>
    let body := " ".intercalate (declarations.map fun d => declaration d ++ " !important;")
    some ("  " ++ selector e.id ++ " \x7b " ++ body ++ " \x7d")

/-- Media queries for the elements with overrides, which win over inline styles. -/
def responsiveCss (tokens : Option Tokens) (selector : String → String) (es : List Element) :
    String :=
  "\n".intercalate (Breakpoint.all.filterMap fun b =>
    match es.filterMap (responsiveRule? tokens selector b) with
    | [] => none
    | rules => some (s!"@media (max-width: {b.maxWidth}px) \x7b\n" ++
        "\n".intercalate rules ++ "\n\x7d"))

end Screenwright.Emit

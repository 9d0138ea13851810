import Screenwright.Emit.Render
import Screenwright.Text.Lines

/-! Plain markup with inline styles, shared by the targets that differ only in how they bind
events, insert expressions, repeat rows and hide nodes. -/
namespace Screenwright.Emit

/-- What tells one markup target from another. -/
structure Dialect where
  framework : Framework
  /-- Text and attribute values. -/
  escape : String → String
  /-- Text literals inside conditions. -/
  quote : String → String
  /-- The attribute of a click, if the click does anything. -/
  click : ClickInteraction → Option String
  /-- The attribute of a change, if the change does anything. -/
  change : ChangeInteraction → Option String
  ifBlock : String → String → String
  eachBlock : String → String → String → String
  interpolate : String → String
  /-- Markup that is shown only under the element's conditions. -/
  conditional : ScreenState → Element → List String → String → String

namespace Markup

/-- What an element gets beside its tag and body. -/
structure Extras where
  css : Fields String := []
  attrs : List String := []
  bindsClick : Bool := true
  bindsChange : Bool := true

def attr (d : Dialect) (name value : String) : String := s!"{name}=\"" ++ d.escape value ++ "\""

def styleAttr (d : Dialect) (css : Fields String) : List String :=
  if css.isEmpty then [] else [attr d "style" (inlineCss css)]

def clickAttr (d : Dialect) (e : Element) : List String :=
  ((e.interactions.bind (·.onClick)).bind d.click).toList

def changeAttr (d : Dialect) (e : Element) : List String :=
  ((e.interactions.bind (·.onChange)).bind d.change).toList

/-- The opening tag of an element without its end. The responsive mark, the class, the style bag
over the given declarations, and the events are the same for all types. -/
def opening (d : Dialect) (s : Screen) (e : Element) (tag : String) (x : Extras) : String :=
  let mark := if s.state.isResponsiveId e.id then [attr d nodeAttribute e.id] else []
  let className := propText e "className"
  let classAttr := if className = "" then [] else [attr d "class" className]
  let css := x.css.merge (cssProperties e.style s.tokens)
  let events := (if x.bindsClick then clickAttr d e else []) ++
    (if x.bindsChange then changeAttr d e else [])
  "<" ++ " ".intercalate (tag :: (mark ++ classAttr ++ x.attrs ++ styleAttr d css ++ events))

/-- An element without a body. -/
def void (d : Dialect) (s : Screen) (e : Element) (tag : String) (x : Extras) : String :=
  opening d s e tag x ++ " />"

/-- An element on one line. -/
def inline (d : Dialect) (s : Screen) (e : Element) (tag : String) (x : Extras) (body : String) :
    String :=
  opening d s e tag x ++ ">" ++ body ++ s!"</{tag}>"

/-- An element with its body on lines of its own. -/
def block (d : Dialect) (s : Screen) (e : Element) (tag : String) (x : Extras) (body : String) :
    String :=
  if body = "" then inline d s e tag x body
  else opening d s e tag x ++ ">\n" ++ Text.indent 2 body ++ s!"\n</{tag}>"

/-- A child element with no node behind it. -/
def part (d : Dialect) (tag : String) (css : Fields String) (attrs : List String)
    (body : String) : String :=
  let opening := "<" ++ " ".intercalate (tag :: (attrs ++ styleAttr d css)) ++ ">"
  if Text.isMultiline body then opening ++ "\n" ++ Text.indent 2 body ++ s!"\n</{tag}>"
  else opening ++ body ++ s!"</{tag}>"

def gapCss (s : Screen) (e : Element) : String := stepToCss (s.gapValue (prop? e "gap"))

def paddingCss (s : Screen) (e : Element) (default : Option String) : Fields String :=
  match propKey? e "padding" default with
  | none => []
  | some key => [("padding", stepToCss (s.sizeValue (some key)))]

def placeholderCss : Fields String :=
  [("padding", "0.5rem 0.75rem"), ("border", "1px dashed #ef4444"), ("color", "#b91c1c"),
    ("font-size", "0.875rem")]

def headingVariants : Fields (Fields String) := [
  ("hero", [("font-size", "3rem"), ("font-weight", "800")]),
  ("title", [("font-size", "2.25rem"), ("font-weight", "700")]),
  ("subtitle", [("font-size", "1.25rem"), ("font-weight", "500"), ("color", "#6b7280")]),
  ("section", [("font-size", "1.5rem"), ("font-weight", "600")])]

def textVariants : Fields (Fields String) :=
  [("muted", [("color", "#6b7280"), ("font-size", "0.875rem")])]

def primaryIntent : Fields String :=
  [("background", "#18181b"), ("color", "#fff"), ("border", "none")]

def buttonIntents : Fields (Fields String) := [
  ("primary", primaryIntent),
  ("default", primaryIntent),
  ("secondary", [("background", "#f4f4f5"), ("color", "#18181b"), ("border", "none")]),
  ("destructive", [("background", "#ef4444"), ("color", "#fff"), ("border", "none")]),
  ("outline",
    [("background", "transparent"), ("color", "#18181b"), ("border", "1px solid #e5e7eb")]),
  ("ghost", [("background", "transparent"), ("color", "#18181b"), ("border", "none")]),
  ("link", [("background", "transparent"), ("color", "#2563eb"), ("border", "none"),
    ("text-decoration", "underline")])]

def defaultButtonPadding : String := "0.5rem 1rem"

def buttonSizes : Fields String :=
  [("xs", "0.125rem 0.5rem"), ("sm", "0.25rem 0.75rem"), ("default", defaultButtonPadding),
    ("lg", "0.75rem 1.5rem"), ("icon", "0.5rem")]

def columnCss (gap : String) : Fields String :=
  [("display", "flex"), ("flex-direction", "column"), ("gap", gap)]

def fontCss (e : Element) : Fields String :=
  let font := propText e "fontFamily"
  if font = "" then [] else [("font-family", font)]

/-- A reference that was not expanded, shown as a notice. -/
def placeholder (d : Dialect) (s : Screen) (e : Element) : String :=
  inline d s e "div"
    { css := placeholderCss
      attrs := [attr d "data-component-ref" (presentOr e "ref" "").text] }
    (d.escape (placeholderMessage e))

/-- An element of a type from elsewhere, its props as data attributes. -/
def other (d : Dialect) (s : Screen) (e : Element) (children : String) : String :=
  let data := (e.props.filter (·.1 != "className")).map fun p =>
    attr d ("data-" ++ p.1) (match p.2 with
      | .str t => t
      | v => v.literal)
  block d s e "div" { attrs := attr d "data-component" e.type :: data } children

def heading (d : Dialect) (s : Screen) (e : Element) (level : Nat) : String :=
  let css := (headingVariants.get? (propText e "variant")).getD []
  inline d s e s!"h{level}" { css := css ++ fontCss e } (d.escape (propText e "text"))

def paragraph (d : Dialect) (s : Screen) (e : Element) : String :=
  let css := (textVariants.get? (propText e "variant")).getD []
  inline d s e "p" { css := css ++ fontCss e } (d.escape (propText e "text"))

def image (d : Dialect) (s : Screen) (e : Element) : String :=
  let dimensions := ["width", "height"].filterMap fun name =>
    (propNumber? e name).map fun v => s!"{name}=\"{v.text}\""
  void d s e "img" { attrs :=
    [attr d "src" (propText e "src"), attr d "alt" (propText e "alt")] ++ dimensions }

def inputCss : Fields String :=
  [("padding", "0.5rem"), ("border", "1px solid #d1d5db"), ("border-radius", "0.375rem")]

/-- An input; with a label it stands below the label in a box that takes the clicks. -/
def input (d : Dialect) (s : Screen) (e : Element) : String :=
  let hint := propText e "placeholder"
  let attrs := attr d "type" (propText e "type" "text") ::
    if hint = "" then [] else [attr d "placeholder" hint]
  let label := propText e "label"
  if label = "" then void d s e "input" { css := inputCss, attrs := attrs }
  else
    let inputId := e.id ++ "-input"
    let control := "<input " ++ " ".intercalate
      (attrs ++ [attr d "id" inputId] ++ styleAttr d inputCss ++ changeAttr d e) ++ " />"
    let caption := "<label " ++ attr d "for" inputId ++ ">" ++ d.escape label ++ "</label>"
    block d s e "div" { css := columnCss "0.25rem", bindsChange := false }
      (caption ++ "\n" ++ control)

def link (d : Dialect) (s : Screen) (e : Element) : String :=
  let href := propText e "href" "#"
  let shown := propText e "text"
  inline d s e "a" { attrs := [attr d "href" href] } (d.escape (if shown = "" then href else shown))

def itemExpression : String :=
  "typeof item === 'object' && item !== null ? Object.values(item).join(' - ') : item"

def fetchedItems (d : Dialect) (f : DataFetch) : String :=
  d.eachBlock f.rows "item" (part d "li" [] [] (d.interpolate itemExpression))

def list (d : Dialect) (s : Screen) (e : Element) : String :=
  let items := match s.state.fetchFor? e.id with
    | some f => fetchedItems d f
    | none => "\n".intercalate ((listItems e).map fun i => part d "li" [] [] (d.escape i))
  block d s e (if propIsTrue e "ordered" then "ol" else "ul")
    { css := [("padding-left", "1.25rem")] } items

def icon (d : Dialect) (s : Screen) (e : Element) : String :=
  let name := propText e "name" "Star"
  let color := propText e "color"
  inline d s e "span"
    { css := [("display", "inline-block"),
          ("font-size", (propNumber e "size" 24).text ++ "px")] ++
        (if color = "" then [] else [("color", color)])
      attrs := [attr d "data-icon" name, "aria-hidden=\"true\""] }
    (d.escape name)

def button (d : Dialect) (s : Screen) (e : Element) : String :=
  let css : Fields String := [
    ("padding",
      (buttonSizes.get? (propText e "size" "default")).getD defaultButtonPadding),
    ("border-radius", "0.375rem"), ("font-size", "0.875rem"), ("font-weight", "500"),
    ("cursor", "pointer")]
  let intent := (buttonIntents.get? (propText e "intent" "primary")).getD primaryIntent
  inline d s e "button" { css := css.merge intent, attrs := ["type=\"button\""] }
    (d.escape (propText e "label" "Button"))

def form (d : Dialect) (s : Screen) (e : Element) (children : String) : String :=
  let action := propText e "action"
  block d s e "form"
    { css := columnCss "1rem"
      attrs := (if action = "" then [] else [attr d "action" action]) ++
        [attr d "method" (propText e "method" "post")] }
    children

/-- Texts on lines of their own, empty ones left out. -/
def joinPresent (xs : List String) : String := "\n".intercalate (xs.filter (· != ""))

def modal (d : Dialect) (s : Screen) (e : Element) (children : String) : String :=
  let title := part d "h3" [("margin", "0 0 0.5rem")] [] (d.escape (propText e "title" "Dialog"))
  block d s e "dialog"
    { css := [("border", "1px solid #e5e7eb"), ("border-radius", "0.5rem"),
        ("max-width", "28rem"), ("padding", "1.5rem"),
        ("box-shadow", "0 25px 50px -12px rgb(0 0 0 / 0.25)")]
      attrs := if isOpen e then ["open"] else [] }
    (joinPresent [title, children])

/-- Tabs: a button for each label, and a panel for each child of which the first is shown. -/
def tabs (d : Dialect) (s : Screen) (e : Element) (children : List String) : String :=
  let buttons := (tabLabels e).zipIdx.map fun l =>
    let selected := if l.2 = 0 then "true" else "false"
    part d "button" [] ["type=\"button\"", "role=\"tab\"", s!"aria-selected=\"{selected}\""]
      (d.escape l.1)
  let bar := part d "div"
    [("display", "flex"), ("gap", "0.5rem"), ("border-bottom", "1px solid #e5e7eb")]
    ["role=\"tablist\""] ("\n".intercalate buttons)
  let panels := children.zipIdx.map fun c =>
    part d "div" [] ("role=\"tabpanel\"" :: if c.2 = 0 then [] else ["hidden"]) c.1
  block d s e "div" { css := columnCss "1rem" } ("\n".intercalate (bar :: panels))

def nav (d : Dialect) (s : Screen) (e : Element) (children : String) : String :=
  let links := (navItems e).map fun l => part d "a" [] [attr d "href" l.2] (d.escape l.1)
  let direction := if propIs e "orientation" "vertical" then "column" else "row"
  block d s e "nav" { css := [("display", "flex"), ("flex-direction", direction), ("gap", "1rem")] }
    ("\n".intercalate (if children = "" then links else links ++ [children]))

def emptyRow (d : Dialect) (span : Nat) : String :=
  part d "tr" [] [] (part d "td"
    [("padding", "0.75rem 1rem"), ("text-align", "center"), ("color", "#6b7280")]
    [s!"colspan=\"{max span 1}\""] "No data")

def cellCss : Fields String := [("text-align", "left"), ("padding", "0.5rem 1rem")]

def tableRow (d : Dialect) (cells : List String) : String :=
  part d "tr" [] [] ("\n".intercalate cells)

def fetchedRows (d : Dialect) (f : DataFetch) (columns : List (String × String)) : String :=
  let cells := columns.map fun c =>
    part d "td" cellCss [] (d.interpolate ("row[" ++ Text.quoteSingle c.1 ++ "] ?? ''"))
  d.eachBlock f.rows "row" (tableRow d cells) ++ "\n" ++
    d.ifBlock (f.rows ++ ".length === 0") (emptyRow d columns.length)

def table (d : Dialect) (s : Screen) (e : Element) : Except EmitError String := do
  let columns := tableColumns e
  let header := tableRow d (columns.map fun c => part d "th" cellCss [] (d.escape c.2))
  let rows ← match s.state.fetchFor? e.id with
    | some f => pure (fetchedRows d f columns)
    | none =>
      match ← rowsAtHand e with
      | [] => pure (emptyRow d columns.length)
      | rows => pure ("\n".intercalate (rows.map fun row =>
          tableRow d (columns.map fun c => part d "td" cellCss [] (d.escape (cellText row c.1)))))
  pure (block d s e "table"
    { css := [("width", "100%"), ("border-collapse", "collapse"), ("font-size", "0.875rem")] }
    (part d "thead" [] [] header ++ "\n" ++ part d "tbody" [] [] rows))

/-- The markup of an element of a built-in type. -/
def builtin (d : Dialect) (s : Screen) (t : BuiltinType) (e : Element)
    (children : List (Except EmitError String)) : Except EmitError String :=
  match t with
  | .stack => do
    let direction := if propIs e "direction" "row" then "row" else "column"
    pure (block d s e "div"
      { css := [("display", "flex"), ("flex-direction", direction), ("gap", gapCss s e)] ++
          paddingCss s e none }
      (← joinRendered children))
  | .grid => do
    let columns := (propNumber e "columns" 2).text
    pure (block d s e "div"
      { css := [("display", "grid"),
          ("grid-template-columns", s!"repeat({columns}, minmax(0, 1fr))"),
          ("gap", gapCss s e)] }
      (← joinRendered children))
  | .sectionBox => do
    pure (block d s e "section" { css := paddingCss s e none } (← joinRendered children))
  | .scrollArea => do
    pure (block d s e "div"
      { css := [("overflow", "auto"), ("height", propText e "height" "auto")] }
      (← joinRendered children))
  | .spacer => .ok (block d s e "div"
      { css := [("height", stepToCss (s.sizeValue (prop? e "size"))), ("flex-shrink", "0")]
        attrs := ["aria-hidden=\"true\""] } "")
  | .box => do pure (block d s e "div" {} (← joinRendered children))
  | .heading => do pure (heading d s e (← headingLevel e))
  | .text => .ok (paragraph d s e)
  | .image => .ok (image d s e)
  | .input => .ok (input d s e)
  | .link => .ok (link d s e)
  | .divider => .ok (void d s e "hr"
      { css := [("border", "none"), ("border-top", "1px solid #e5e7eb")] })
  | .list => .ok (list d s e)
  | .icon => .ok (icon d s e)
  | .card => do
    pure (block d s e "div"
      { css := [("border", "1px solid #e5e7eb"), ("border-radius", "0.5rem"),
          ("box-shadow", "0 1px 3px rgb(0 0 0 / 0.1)")] ++ paddingCss s e "md" }
      (← joinRendered children))
  | .button => .ok (button d s e)
  | .form => do pure (form d s e (← joinRendered children))
  | .modal => do pure (modal d s e (← joinRendered children))
  | .tabs => do pure (tabs d s e (← children.mapM id))
  | .nav => do pure (nav d s e (← joinRendered children))
  | .dataTable => table d s e

/-- The markup of an element whose children are rendered, before its conditions. -/
def unconditional (d : Dialect) (s : Screen) (e : Element)
    (children : List (Except EmitError String)) : Except EmitError String :=
  match NodeKind.classify e.type e.props with
  | .reference _ => .ok (placeholder d s e)
  | .builtin t => builtin d s t e children
  | .other _ =>
    match s.plugins.get? e.type with
    | some p => renderPlugin p d.framework e
    | none => do pure (other d s e (← joinRendered children))

/-- The markup of an element whose children are rendered. -/
def element (d : Dialect) (s : Screen) (e : Element) (children : List (Except EmitError String)) :
    Except EmitError String := do
  let markup ← unconditional d s e children
  match conditions d.quote s.state e with
  | [] => pure markup
  | cs => pure (d.conditional s.state e cs markup)

mutual

/-- The markup of a tree. -/
def render (d : Dialect) (s : Screen) : Node → Except EmitError String
  | .leaf e => element d s e []
  | .branch e cs => element d s e (renderAll d s cs)

def renderAll (d : Dialect) (s : Screen) : List Node → List (Except EmitError String)
  | [] => []
  | c :: cs => render d s c :: renderAll d s cs

end

end Markup

/-- The conditional of the targets that have a block for it. -/
def Dialect.blockConditional (ifBlock : String → String → String) (_ : ScreenState) (_ : Element)
    (conditions : List String) (markup : String) : String :=
  ifBlock (" && ".intercalate conditions) markup

end Screenwright.Emit

import Screenwright.Emit.ComponentLibrary
import Screenwright.Emit.Jsx

/-! Next.js: function components with utility classes, or with the components of a library. -/
namespace Screenwright.Emit.Nextjs

/-- A screen together with the library that its project names. -/
structure Page extends Screen where
  library : Option ComponentLibrary

def dialect : ReactDialect where
  navigate target := pure s!"router.push({Text.quoteDouble target})"
  setterAttr setter := "onChange=" ++ braced s!"(e) => {setter}(e.target.value)"
  codeAttr code := "onChange=" ++ braced ("(e) => \x7b " ++ code ++ " \x7d")
  routerLines := do
    discard (Emission.use "next/navigation" "useRouter")
    pure ["const router = useRouter();"]

/-- Class names in one attribute, empty ones left out. -/
def classes (parts : List String) : String := " ".intercalate (parts.filter (· != ""))

/-- What an element gets beside its tag and body. -/
structure Extras where
  className : String := ""
  attrs : List String := []
  style : Fields Json := []
  bindsChange : Bool := true

/-- The attributes of a node's element: responsive mark, classes, style bag and handlers. -/
def attributes (p : Page) (e : Element) (x : Extras) : Emission (List String) := do
  let mark := if p.state.isResponsiveId e.id then [textAttr nodeAttribute e.id] else []
  let className := classes [x.className, propText e "className"]
  let classAttr := if className = "" then [] else [textAttr "className" className]
  let style := x.style.merge
    ((resolveStyle e.style p.tokens).map fun d => (d.1.name, d.2.toJson))
  let click := (← Jsx.clickHandler? dialect e).map fun h => "onClick=" ++ braced h
  let change := if x.bindsChange then Jsx.changeAttrs dialect e else []
  pure (mark ++ classAttr ++ x.attrs ++ styleAttr style ++ click.toList ++ change)

def block (p : Page) (e : Element) (tag : String) (x : Extras) (body : String) :
    Emission String := do
  pure (jsxElement tag (← attributes p e x) body)

def inline (p : Page) (e : Element) (tag : String) (x : Extras) (body : String) :
    Emission String := do
  pure (jsxInline tag (← attributes p e x) body)

/-- The library's component for an element, imported. -/
def component? (p : Page) (e : Element) : Emission (Option String) :=
  match p.library.bind (·.import? e.type p.config.importAlias) with
  | none => pure none
  | some (name, source) => some <$> Emission.use source name

def gapClass (p : Page) (e : Element) : String := stepToClass "gap" (p.gapValue (prop? e "gap"))

def paddingClass (p : Page) (e : Element) (default : Option String) : String :=
  match propKey? e "padding" default with
  | none => ""
  | some key => stepToClass "p" (p.sizeValue (some key))

def fontStyle (e : Element) : Fields Json :=
  let font := propText e "fontFamily"
  if font = "" then [] else [("fontFamily", .str font)]

def placeholder (p : Page) (e : Element) : Emission String :=
  inline p e "div"
    { className := "border border-dashed border-red-500 px-3 py-2 text-sm text-red-700"
      attrs := [jsxAttr "data-component-ref" (presentOr e "ref" "")] }
    (Text.escapeBraced (placeholderMessage e))

/-- An element of a type from elsewhere, its props as data attributes. -/
def other (p : Page) (e : Element) (children : String) : Emission String :=
  let data := (e.props.filter (·.1 != "className")).map fun f =>
    textAttr ("data-" ++ f.1) (match f.2 with
      | .str t => t
      | v => v.literal)
  block p e "div" { attrs := textAttr "data-component" e.type :: data } children

def headingClasses : List String := [
  "text-4xl font-bold", "text-3xl font-bold", "text-2xl font-semibold",
  "text-xl font-semibold", "text-lg font-medium", "text-base font-medium"]

def headingVariants : Fields String := [
  ("hero", "text-5xl font-extrabold tracking-tight"),
  ("title", "text-4xl font-bold"),
  ("subtitle", "text-xl font-medium text-muted-foreground"),
  ("section", "text-2xl font-semibold")]

def heading (p : Page) (e : Element) : Emission String := do
  let level ← Emission.ofExcept (headingLevel e)
  let className := (headingVariants.get? (propText e "variant")).getD
    (headingClasses[level - 1]?.getD "")
  inline p e s!"h{level}" { className := className, style := fontStyle e }
    (Text.escapeBraced (propText e "text"))

def paragraph (p : Page) (e : Element) : Emission String :=
  let className := if propText e "variant" = "muted" then "text-sm text-muted-foreground" else ""
  inline p e "p" { className := className, style := fontStyle e }
    (Text.escapeBraced (propText e "text"))

def image (p : Page) (e : Element) : Emission String :=
  let dimensions := ["width", "height"].filterMap fun name =>
    (propNumber? e name).map fun v => name ++ "=" ++ braced v.text
  block p e "img" { attrs :=
    [textAttr "src" (propText e "src"), textAttr "alt" (propText e "alt")] ++ dimensions } ""

/-- An input; with a label it stands below the label in a box that takes the clicks. -/
def input (p : Page) (e : Element) : Emission String := do
  let inputId := e.id ++ "-input"
  let hint := propText e "placeholder"
  let attrs := [textAttr "id" inputId, textAttr "type" (propText e "type" "text")] ++
    if hint = "" then [] else [textAttr "placeholder" hint]
  let tag ← component? p e
  let className := match tag with
    | some _ => ""
    | none => "rounded-md border border-input px-3 py-2 text-sm"
  let label := propText e "label"
  if label = "" then
    block p e (tag.getD "input") { className := className, attrs := attrs } ""
  else
    let classAttr := if className = "" then [] else [textAttr "className" className]
    let control := jsxElement (tag.getD "input")
      (classAttr ++ attrs ++ Jsx.changeAttrs dialect e) ""
    let caption := "<label htmlFor=\"" ++ inputId ++ "\" className=\"text-sm font-medium\">" ++
      Text.escapeBraced label ++ "</label>"
    block p e "div" { className := "flex flex-col gap-1", bindsChange := false }
      (caption ++ "\n" ++ control)

def link (p : Page) (e : Element) : Emission String := do
  let tag ← Emission.useDefault "next/link" "Link"
  let href := propText e "href" "#"
  let shown := propText e "text"
  inline p e tag { attrs := [textAttr "href" href] }
    (Text.escapeBraced (if shown = "" then href else shown))

def divider (p : Page) (e : Element) : Emission String := do
  match ← component? p e with
  | some tag => block p e tag {} ""
  | none => block p e "hr" { className := "border-t border-border" } ""

def itemExpression : String :=
  "typeof item === \"object\" && item !== null ? Object.values(item).join(\" - \") : String(item)"

def list (p : Page) (e : Element) : Emission String :=
  let ordered := propIsTrue e "ordered"
  let items := match p.state.fetchFor? e.id with
    | some f => braced (f.rows ++ ".map((item, index) => (\n  <li key=" ++ braced "index" ++ ">" ++
        braced itemExpression ++ "</li>\n))")
    | none => "\n".intercalate ((listItems e).map fun i =>
        "<li>" ++ Text.escapeBraced i ++ "</li>")
  block p e (if ordered then "ol" else "ul")
    { className := classes [if ordered then "list-decimal" else "list-disc", "pl-4"] } items

/-- Whether a name can be that of an icon component: a capital, letters and digits, and possibly a
line end. -/
def isIconName (name : String) : Bool :=
  match name.toList with
  | [] => false
  | c :: rest =>
    let rest := if rest.getLast? = some '\n' then rest.dropLast else rest
    c.isUpper && rest.all Char.isAlphanum

def icon (p : Page) (e : Element) : Emission String := do
  let name := propText e "name" "Star"
  if isIconName name then
    let tag ← Emission.use "lucide-react" (name ++ "Icon")
    let color := propText e "color"
    block p e tag { attrs := ["size=" ++ braced (propNumber e "size" 24).text] ++
      if color = "" then [] else [textAttr "color" color] } ""
  else
    inline p e "span" { className := "inline-block", attrs := [textAttr "aria-hidden" "true"] }
      (Text.escapeBraced name)

def primaryClass : String := "bg-primary text-primary-foreground hover:bg-primary/90"

def buttonIntents : Fields String := [
  ("primary", primaryClass),
  ("default", primaryClass),
  ("secondary", "bg-secondary text-secondary-foreground hover:bg-secondary/80"),
  ("destructive", "bg-destructive text-destructive-foreground hover:bg-destructive/90"),
  ("outline", "border border-input bg-background hover:bg-accent"),
  ("ghost", "hover:bg-accent hover:text-accent-foreground"),
  ("link", "text-primary underline-offset-4 hover:underline")]

def defaultSizeClass : String := "h-10 px-4 py-2"

def buttonSizes : Fields String := [
  ("default", defaultSizeClass), ("xs", "h-7 px-2 text-xs"), ("sm", "h-9 px-3"),
  ("lg", "h-11 px-8"), ("icon", "h-10 w-10")]

/-- The attributes that a library's button takes over from the props. -/
def libraryButtonAttrs (p : Page) (e : Element) : List String :=
  (((p.library.map (·.transform e.type e.props)).getD []).filter fun f =>
    (f.1 == "variant" || f.1 == "size") && f.2.isString).map fun f => jsxAttr f.1 f.2

def button (p : Page) (e : Element) : Emission String := do
  let label := Text.escapeBraced (propText e "label" "Button")
  match ← component? p e with
  | some tag => inline p e tag { attrs := libraryButtonAttrs p e } label
  | none =>
    inline p e "button"
      { className := classes [
          "inline-flex items-center justify-center rounded-md text-sm font-medium",
          (buttonIntents.get? (propText e "intent" "primary")).getD primaryClass,
          (buttonSizes.get? (propText e "size" "default")).getD defaultSizeClass]
        attrs := ["type=\"button\""] } label

def form (p : Page) (e : Element) (children : String) : Emission String :=
  let action := propText e "action"
  block p e "form"
    { className := "flex flex-col gap-4"
      attrs := (if action = "" then [] else [textAttr "action" action]) ++
        [textAttr "method" (propText e "method" "post")] }
    children

def modal (p : Page) (e : Element) (children : String) : Emission String :=
  let title := "<h3 className=\"mb-2 text-lg font-semibold\">" ++
    Text.escapeBraced (propText e "title" "Dialog") ++ "</h3>"
  block p e "dialog"
    { className := "max-w-md rounded-lg border p-6 shadow-lg"
      attrs := if isOpen e then ["open"] else [] }
    (if children = "" then title else title ++ "\n" ++ children)

/-- Tabs: a button for each label, and a panel for each child of which the first is shown. -/
def tabs (p : Page) (e : Element) (children : List String) : Emission String :=
  let buttons := (tabLabels e).zipIdx.map fun l =>
    "<button type=\"button\" role=\"tab\" aria-selected=" ++
      braced (if l.2 = 0 then "true" else "false") ++
      " className=\"px-3 py-2 text-sm font-medium\">" ++ Text.escapeBraced l.1 ++ "</button>"
  let bar := "<div role=\"tablist\" className=\"flex gap-2 border-b\">\n" ++
    Text.indent 2 ("\n".intercalate buttons) ++ "\n</div>"
  let panels := children.zipIdx.map fun c =>
    "<div role=\"tabpanel\"" ++ (if c.2 = 0 then "" else " hidden") ++ ">\n" ++
      Text.indent 2 c.1 ++ "\n</div>"
  block p e "div" { className := "flex flex-col gap-4" } ("\n".intercalate (bar :: panels))

def nav (p : Page) (e : Element) (children : String) : Emission String := do
  let items := navItems e
  if !items.isEmpty then discard (Emission.useDefault "next/link" "Link")
  let links := items.map fun l =>
    "<Link " ++ textAttr "href" l.2 ++ " className=\"text-sm font-medium\">" ++
      Text.escapeBraced l.1 ++ "</Link>"
  let direction := if propIs e "orientation" "vertical" then "flex-col" else "flex-row"
  block p e "nav" { className := classes ["flex gap-4", direction] }
    ("\n".intercalate (if children = "" then links else links ++ [children]))

def cellClass : String := "px-4 py-2"

def emptyRow (span : Nat) : String :=
  "<tr>\n  <td colSpan=" ++ braced (toString (max span 1)) ++
    " className=\"px-4 py-3 text-center text-muted-foreground\">No data</td>\n</tr>"

def fetchedRows (f : DataFetch) (columns : List (String × String)) : String :=
  let cells := columns.map fun c =>
    s!"<td className=\"{cellClass}\">" ++
      braced ("String(row[" ++ Text.quoteSingle c.1 ++ "] ?? \"\")") ++ "</td>"
  braced (f.rows ++ ".map((row, index) => (\n  <tr key=" ++ braced "index" ++
      " className=\"border-b\">\n" ++ Text.indent 4 ("\n".intercalate cells) ++ "\n  </tr>\n))") ++
    "\n" ++ braced (f.rows ++ ".length === 0 && (\n" ++
      Text.indent 2 (emptyRow columns.length) ++ "\n)")

def tableRow (cells : List String) : String :=
  "<tr className=\"border-b\">\n" ++ Text.indent 2 ("\n".intercalate cells) ++ "\n</tr>"

def table (p : Page) (e : Element) : Emission String := do
  let columns := tableColumns e
  let header := columns.map fun c =>
    s!"<th className=\"{cellClass} text-left font-medium\">" ++ Text.escapeBraced c.2 ++ "</th>"
  let rows ← match p.state.fetchFor? e.id with
    | some f => pure (fetchedRows f columns)
    | none =>
      match ← Emission.ofExcept (rowsAtHand e) with
      | [] => pure (emptyRow columns.length)
      | rows => pure ("\n".intercalate (rows.map fun row => tableRow (columns.map fun c =>
          s!"<td className=\"{cellClass}\">" ++ Text.escapeBraced (cellText row c.1) ++ "</td>")))
  block p e "table" { className := "w-full text-sm" }
    ("<thead>\n  <tr className=\"border-b bg-muted/50\">\n" ++
      Text.indent 4 ("\n".intercalate header) ++ "\n  </tr>\n</thead>\n<tbody>\n" ++
      Text.indent 2 rows ++ "\n</tbody>")

/-- The markup of an element of a built-in type. -/
def builtin (p : Page) (t : BuiltinType) (e : Element) (children : List (Emission String)) :
    Emission String :=
  match t with
  | .stack => do
    let direction := if propIs e "direction" "row" then "flex-row" else "flex-col"
    block p e "div"
      { className := classes ["flex", direction, gapClass p e, paddingClass p e none] }
      (← Emission.join children)
  | .grid => do
    let columns := (propNumber e "columns" 2).text
    block p e "div" { className := classes ["grid", "grid-cols-" ++ columns, gapClass p e] }
      (← Emission.join children)
  | .sectionBox => do
    block p e "section" { className := paddingClass p e none } (← Emission.join children)
  | .scrollArea => do
    let height := propText e "height" "auto"
    let heightClass := if height = "auto" then "h-auto" else s!"h-[{blankToLowLine height}]"
    match ← component? p e with
    | some tag => block p e tag { className := heightClass } (← Emission.join children)
    | none =>
      block p e "div" { className := classes ["overflow-auto", heightClass] }
        (← Emission.join children)
  | .spacer =>
    block p e "div"
      { className := classes [stepToClass "h" (p.sizeValue (prop? e "size")), "shrink-0"]
        attrs := ["aria-hidden"] } ""
  | .box => do block p e "div" {} (← Emission.join children)
  | .heading => heading p e
  | .text => paragraph p e
  | .image => image p e
  | .input => input p e
  | .link => link p e
  | .divider => divider p e
  | .list => list p e
  | .icon => icon p e
  | .card => do
    let padding := paddingClass p e "md"
    match ← component? p e with
    | some tag => block p e tag { className := padding } (← Emission.join children)
    | none =>
      block p e "div"
        { className := classes ["rounded-lg border bg-card text-card-foreground shadow-sm", padding] }
        (← Emission.join children)
  | .button => button p e
  | .form => do form p e (← Emission.join children)
  | .modal => do modal p e (← Emission.join children)
  | .tabs => do tabs p e (← children.mapM id)
  | .nav => do nav p e (← Emission.join children)
  | .dataTable => table p e

/-- The markup of an element before its conditions. -/
def unconditional (p : Page) (e : Element) (children : List (Emission String)) :
    Emission String :=
  match NodeKind.classify e.type e.props with
  | .reference _ => placeholder p e
  | .builtin t => builtin p t e children
  | .other _ =>
    match p.plugins.get? e.type with
    | some plugin => Emission.ofExcept (renderPlugin plugin .nextjs e)
    | none => do other p e (← Emission.join children)

def element (p : Page) (e : Element) (children : List (Emission String)) : Emission String := do
  let markup ← unconditional p e children
  match conditions Text.quoteDouble p.state e with
  | [] => pure markup
  | cs => pure (jsxConditional cs markup)

mutual

/-- The markup of a tree. -/
def render (p : Page) : Node → Emission String
  | .leaf e => element p e []
  | .branch e cs => element p e (renderAll p cs)

def renderAll (p : Page) : List Node → List (Emission String)
  | [] => []
  | c :: cs => render p c :: renderAll p cs

end

def responsiveConstant : String := "RESPONSIVE_CSS"

/-- The body of a component: the style element of responsive rules beside the markup. -/
def body (responsive markup : String) : String :=
  if responsive = "" then Jsx.fragment markup
  else "<>\n" ++ Text.indent 2 ("<style>" ++ braced responsiveConstant ++ "</style>") ++ "\n" ++
    Text.indent 2 markup ++ "\n</>"

def header (s : ScreenState) : List String :=
  ("// " ++ generatedMarker) :: if s.isInteractive then ["\"use client\";", ""] else []

/-- The module of a screen with the given component name. -/
def contents (c : Context) (name : String) (tree : Node) : Except EmitError String := do
  let p : Page :=
    { Screen.ofTree c tree with library := ComponentLibrary.ofName? c.config.componentLibrary }
  let (markup, imports) ← (render p tree).run
  let (hooks, hookImports) ← (Jsx.hookLines dialect p.toScreen).run
  let responsive := responsiveCss p.tokens nodeSelector p.state.responsive
  let preamble := if responsive = "" then []
    else [s!"const {responsiveConstant} = {Text.quoteDouble responsive};"]
  pure (Jsx.module_ name (header p.state) (Import.lines (imports ++ hookImports)) preamble hooks
    (body responsive markup))

end Screenwright.Emit.Nextjs

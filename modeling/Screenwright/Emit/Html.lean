import Screenwright.Emit.Markup
import Screenwright.Text.Entity

/-! HTML: documents that open in a browser as they are. Marked elements are shown and hidden by a
small script inside the document, and lists and tables show the rows at hand. -/
namespace Screenwright.Emit.Html

def escape (s : String) : String := Text.escapeMarkup s

def clickStatement? (c : ClickInteraction) : Option String :=
  match c.action with
  | .navigate => (nonEmpty c.target).map fun t => "window.location.href = " ++ Text.quoteSingle t
  | .toggleVisibility => (nonEmpty c.target).map fun t => s!"ssToggle({Text.quoteSingle t})"
  | .custom => nonEmpty c.code

def changeStatement? (c : ChangeInteraction) : Option String :=
  match c.action with
  | .setState => (nonEmpty c.target).map fun t => s!"ssSet({Text.quoteSingle t}, this.value)"
  | .custom => nonEmpty c.code

/-- The attributes by which the script finds an element and its condition. -/
def conditionAttrs (s : ScreenState) (e : Element) : List String :=
  let attr := fun (name value : String) => s!"{name}=\"" ++ escape value ++ "\""
  ["data-ss-when"] ++
    (if s.toggled.contains e.id then [attr "data-ss-toggle" e.id] else []) ++
    match e.interactions.bind (·.visibleWhen) with
    | none => []
    | some r => [attr "data-ss-state" r.state, s!"data-ss-op=\"{r.operator.name}\""] ++
        if r.operator = .truthy then [] else [attr "data-ss-value" (r.value.getD "")]

def conditional (s : ScreenState) (e : Element) (_ : List String) (markup : String) : String :=
  "<div " ++ " ".intercalate (conditionAttrs s e) ++ " style=\"display: contents\">\n" ++
    Text.indent 2 markup ++ "\n</div>"

def dialect : Dialect where
  framework := .html
  escape := escape
  quote := Text.quoteDouble
  click c := (clickStatement? c).map fun t => "onclick=\"" ++ escape t ++ "\""
  change c := (changeStatement? c).map fun t => "oninput=\"" ++ escape t ++ "\""
  ifBlock _ markup := markup
  eachBlock _ _ markup := markup
  interpolate _ := ""
  conditional := conditional

def baseCss : List String := [
  "* \x7b box-sizing: border-box; margin: 0; padding: 0; \x7d",
  "body \x7b font-family: system-ui, -apple-system, sans-serif; line-height: 1.5; color: #18181b; \x7d",
  "a \x7b color: #2563eb; \x7d",
  "button \x7b font-family: inherit; \x7d"]

/-- The functions that toggle, set and show. -/
def scriptBody : List String := [
  "function ssUpdate() \x7b",
  "  document.querySelectorAll(\"[data-ss-when]\").forEach(function (el) \x7b",
  "    var show = true;",
  "    var toggle = el.dataset.ssToggle;",
  "    if (toggle !== undefined) show = show && ssVisible[toggle] !== false;",
  "    var name = el.dataset.ssState;",
  "    if (name !== undefined) \x7b",
  "      var current = ssState[name];",
  "      var op = el.dataset.ssOp;",
  "      if (op === \"eq\") show = show && String(current) === el.dataset.ssValue;",
  "      else if (op === \"neq\") show = show && String(current) !== el.dataset.ssValue;",
  "      else show = show && !!current;",
  "    \x7d",
  "    el.style.display = show ? \"contents\" : \"none\";",
  "  \x7d);",
  "\x7d",
  "function ssToggle(id) \x7b",
  "  ssVisible[id] = ssVisible[id] === false;",
  "  ssUpdate();",
  "\x7d",
  "function ssSet(name, value) \x7b",
  "  ssState[name] = value;",
  "  ssUpdate();",
  "\x7d",
  "ssUpdate();"]

/-- The script of a screen with state, the state's first values in front. -/
def script (s : ScreenState) : String :=
  if s.toggled.isEmpty && s.values.isEmpty then ""
  else
    let visible := Json.obj (s.toggled.map fun id => (id, .bool true))
    let values := Json.obj (s.values.map fun name => (name, .str ""))
    "\n".intercalate
      ([s!"var ssVisible = {visible.literal};", s!"var ssState = {values.literal};"] ++ scriptBody)

/-- A document with a head and a body of the given lines. -/
def document (head body : List String) : String :=
  "\n".intercalate (["<!DOCTYPE html>", "<!-- " ++ generatedMarker ++ " -->",
    "<html lang=\"en\">", "<head>", "  <meta charset=\"UTF-8\" />"] ++ head ++
    ["</head>", "<body>"] ++ body ++ ["</body>", "</html>"]) ++ "\n"

/-- The document of a screen with the given title. -/
def page (s : Screen) (title markup : String) : String :=
  let responsive := responsiveCss s.tokens nodeSelector s.state.responsive
  let css := "\n".intercalate (baseCss ++ if responsive = "" then [] else [responsive])
  let code := script s.state
  document
    ["  <meta name=\"viewport\" content=\"width=device-width, initial-scale=1.0\" />",
      s!"  <title>{escape title}</title>", "  <style>", Text.indent 4 css, "  </style>"]
    (["  <div id=\"app\">", Text.indent 4 markup, "  </div>"] ++
      if code = "" then [] else ["  <script>", Text.indent 4 code, "  </script>"])

/-- The document of a screen. -/
def contents (c : Context) (title : String) (tree : Node) : Except EmitError String := do
  let s := Screen.ofTree c tree
  let s := { s with state := s.state.withoutFetches }
  pure (page s title (← Markup.render dialect s tree))

/-- The document that links to all screens. -/
def index (names : List String) : String :=
  document ["  <title>Screens</title>"]
    (["  <nav>", "    <ul>"] ++
      names.map (fun n =>
        s!"      <li><a href=\"./{n}.generated.html\">{escape n}</a></li>") ++
      ["    </ul>", "  </nav>"])

end Screenwright.Emit.Html

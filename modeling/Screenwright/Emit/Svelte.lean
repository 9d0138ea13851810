import Screenwright.Emit.Markup
import Screenwright.Text.Entity

/-! Svelte: components with plain variables as state, blocks for conditions and repetition, and a
style block whose rules reach every element. -/
namespace Screenwright.Emit.Svelte

def inBraces (s : String) : String := "\x7b" ++ s ++ "\x7d"

def clickHandler? (c : ClickInteraction) : Option String :=
  match c.action with
  | .navigate => (nonEmpty c.target).map fun t => s!"() => goto({Text.quoteDouble t})"
  | .toggleVisibility => (nonEmpty c.target).map fun t =>
    s!"() => ({visibilityVar t} = !{visibilityVar t})"
  | .custom => (nonEmpty c.code).map fun t => "() => \x7b " ++ t ++ " \x7d"

def changeHandler? (c : ChangeInteraction) : Option String :=
  match c.action with
  | .setState => (nonEmpty c.target).map fun t => s!"(e) => ({stateVar t} = e.currentTarget.value)"
  | .custom => (nonEmpty c.code).map fun t => "(e) => \x7b " ++ t ++ " \x7d"

def ifBlock (expression markup : String) : String :=
  inBraces ("#if " ++ expression) ++ "\n" ++ Text.indent 2 markup ++ "\n" ++ inBraces "/if"

def eachBlock (items item markup : String) : String :=
  inBraces s!"#each {items} as {item}" ++ "\n" ++ Text.indent 2 markup ++ "\n" ++ inBraces "/each"

def dialect : Dialect where
  framework := .svelte
  escape := Text.escapeBraced
  quote := Text.quoteDouble
  click c := (clickHandler? c).map fun h => "on:click=" ++ inBraces h
  change c := (changeHandler? c).map fun h => "on:input=" ++ inBraces h
  ifBlock := ifBlock
  eachBlock := eachBlock
  interpolate := inBraces
  conditional := Dialect.blockConditional ifBlock

def importLines (s : ScreenState) : List String :=
  (if s.fetches.isEmpty then [] else ["import \x7b onMount \x7d from \"svelte\";"]) ++
  (if s.navigates then ["import \x7b goto \x7d from \"$app/navigation\";"] else [])

def fetchLines (f : DataFetch) : List String := [
  s!"  const {f.rows}Response = await fetch({Text.quoteDouble f.url});",
  s!"  {f.rows} = (await {f.rows}Response.json()){f.transform};"]

/-- The lines of the script: imports, state, and the fetches on mounting. -/
def scriptLines (s : Screen) : Except EmitError (List String) := do
  let st := s.state
  let imported := importLines st
  let started ← s.startedFetches
  pure (imported ++ (if imported.isEmpty || !st.isStateful then [] else [""]) ++
    st.toggled.map (fun id => s!"let {visibilityVar id} = true;") ++
    st.values.map (fun name => s!"let {stateVar name} = \"\";") ++
    started.map (fun (f, rows) => s!"let {f.rows}: any[] = {rows};") ++
    if st.fetches.isEmpty then []
    else ["", "onMount(async () => \x7b"] ++ st.fetches.flatMap fetchLines ++ ["\x7d);"])

def globalSelector (id : String) : String := s!":global({nodeSelector id})"

/-- The contents of a component file with the lines of its script. -/
def component (s : Screen) (scriptLines : List String) (markup : String) : String :=
  let script := "\n".intercalate scriptLines
  let styles := responsiveCss s.tokens globalSelector s.state.responsive
  let sections := ["<!-- " ++ generatedMarker ++ " -->"] ++
    (if script = "" then []
      else ["<script lang=\"ts\">\n" ++ Text.indent 2 script ++ "\n</script>"]) ++
    [markup] ++
    (if styles = "" then [] else ["<style>\n" ++ Text.indent 2 styles ++ "\n</style>"])
  "\n\n".intercalate sections ++ "\n"

/-- The component of a screen. -/
def contents (c : Context) (tree : Node) : Except EmitError String := do
  let s := Screen.ofTree c tree
  let markup ← Markup.render dialect s tree
  pure (component s (← scriptLines s) markup)

end Screenwright.Emit.Svelte

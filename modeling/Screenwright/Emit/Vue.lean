import Screenwright.Emit.Markup
import Screenwright.Text.Entity

/-! Vue: single-file components with a setup script, a template of plain markup, and a style block
for narrower screens. -/
namespace Screenwright.Emit.Vue

def escape (s : String) : String := Text.escapeMustache s

def clickStatement? (c : ClickInteraction) : Option String :=
  match c.action with
  | .navigate => (nonEmpty c.target).map fun t => s!"router.push({Text.quoteSingle t})"
  | .toggleVisibility => (nonEmpty c.target).map fun t =>
    visibilityVar t ++ " = !" ++ visibilityVar t
  | .custom => nonEmpty c.code

def changeStatement? (c : ChangeInteraction) : Option String :=
  match c.action with
  | .setState => (nonEmpty c.target).map fun t =>
    stateVar t ++ " = ($event.target as HTMLInputElement).value"
  | .custom => nonEmpty c.code

def ifBlock (expression markup : String) : String :=
  "<template v-if=\"" ++ escape expression ++ "\">\n" ++ Text.indent 2 markup ++ "\n</template>"

def eachBlock (items item markup : String) : String :=
  s!"<template v-for=\"({item}, index) in {items}\" :key=\"index\">\n" ++
    Text.indent 2 markup ++ "\n</template>"

def dialect : Dialect where
  framework := .vue
  escape := escape
  quote := Text.quoteSingle
  click c := (clickStatement? c).map fun t => "@click=\"" ++ escape t ++ "\""
  change c := (changeStatement? c).map fun t => "@input=\"" ++ escape t ++ "\""
  ifBlock := ifBlock
  eachBlock := eachBlock
  interpolate e := "\x7b\x7b " ++ e ++ " \x7d\x7d"
  conditional := Dialect.blockConditional ifBlock

/-- The functions that the script imports from the framework. -/
def imports (s : ScreenState) : List String :=
  (if s.fetches.isEmpty then [] else ["onMounted"]) ++ (if s.isStateful then ["ref"] else [])

def importLines (s : ScreenState) : List String :=
  (match imports s with
    | [] => []
    | names => ["import \x7b " ++ ", ".intercalate names ++ " \x7d from \"vue\";"]) ++
  (if s.navigates then ["import \x7b useRouter \x7d from \"vue-router\";"] else [])

def fetchLines (f : DataFetch) : List String := [
  s!"  const {f.rows}Response = await fetch({Text.quoteDouble f.url});",
  s!"  {f.rows}.value = (await {f.rows}Response.json()){f.transform};"]

/-- The lines of the setup script: imports, state, and the fetches on mounting. -/
def scriptLines (s : Screen) : Except EmitError (List String) := do
  let st := s.state
  let imported := importLines st
  let started ← s.startedFetches
  pure (imported ++ (if imported.isEmpty then [] else [""]) ++
    (if st.navigates then ["const router = useRouter();"] else []) ++
    st.toggled.map (fun id => s!"const {visibilityVar id} = ref(true);") ++
    st.values.map (fun name => s!"const {stateVar name} = ref(\"\");") ++
    started.map (fun (f, rows) => s!"const {f.rows} = ref<any[]>({rows});") ++
    if st.fetches.isEmpty then []
    else ["", "onMounted(async () => \x7b"] ++ st.fetches.flatMap fetchLines ++ ["\x7d);"])

/-- The contents of a component file with the lines of its script. -/
def component (s : Screen) (scriptLines : List String) (markup : String) : String :=
  let script := "\n".intercalate scriptLines
  let styles := responsiveCss s.tokens nodeSelector s.state.responsive
  let sections := ["<!-- " ++ generatedMarker ++ " -->"] ++
    (if script = "" then [] else ["<script setup lang=\"ts\">\n" ++ script ++ "\n</script>"]) ++
    ["<template>\n" ++ Text.indent 2 markup ++ "\n</template>"] ++
    (if styles = "" then [] else ["<style>\n" ++ styles ++ "\n</style>"])
  "\n\n".intercalate sections ++ "\n"

/-- The component of a screen. -/
def contents (c : Context) (tree : Node) : Except EmitError String := do
  let s := Screen.ofTree c tree
  let markup ← Markup.render dialect s tree
  pure (component s (← scriptLines s) markup)

end Screenwright.Emit.Vue

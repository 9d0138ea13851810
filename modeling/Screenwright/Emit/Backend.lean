import Screenwright.Document.Screen
import Screenwright.Emit.Expo
import Screenwright.Emit.Html
import Screenwright.Emit.Nextjs
import Screenwright.Emit.Svelte
import Screenwright.Emit.Vue

/-! Backends: the files of one screen, and the index of all components, for each target. -/
namespace Screenwright.Emit

/-- The file of one screen and the name of its component. -/
structure EmittedScreen where
  file : File
  componentName : String
  deriving DecidableEq, Repr

/-- The ending of a target's component files. -/
def extension : Framework → String
  | .nextjs | .expo => ".tsx"
  | .vue => ".vue"
  | .svelte => ".svelte"
  | .html => ".html"

/-- The contents of a screen's file. -/
def screenContents (f : Framework) (c : Context) (name : String) (tree : Node) :
    Except EmitError String :=
  match f with
  | .nextjs => Nextjs.contents c name tree
  | .vue => Vue.contents c tree
  | .svelte => Svelte.contents c tree
  | .html => Html.contents c name tree
  | .expo => Expo.contents c name tree

/-- The file of a screen, named for the component of its route. -/
def emitScreen (f : Framework) (c : Context) (spec : ScreenSpec) : Except EmitError EmittedScreen := do
  let name := componentName spec.route
  let contents ← screenContents f c name spec.tree
  pure ⟨⟨c.config.generatedPath (name ++ ".generated" ++ extension f), contents⟩, name⟩

/-- The line of a script index that exports a component. -/
def exportLine (f : Framework) (name : String) : String :=
  match f with
  | .nextjs | .expo | .html => "export \x7b " ++ name ++ s!" \x7d from \"./{name}.generated\";"
  | .vue | .svelte =>
    "export \x7b default as " ++ name ++ s!" \x7d from \"./{name}.generated{extension f}\";"

/-- The index of components, sorted by name. -/
def emitIndex (f : Framework) (config : Config) (names : List String) : File :=
  let names := Text.sorted names
  match f with
  | .html => ⟨config.generatedPath "index.html", Html.index names⟩
  | f => ⟨config.generatedPath "index.ts",
      "\n".intercalate (("// " ++ generatedMarker) :: names.map (exportLine f)) ++ "\n"⟩

/-- What a backend says of itself. -/
structure Capabilities where
  name : String
  description : String
  outputFormats : List String
  fileExtension : String
  responsive : Bool := true
  componentLibraries : List String := []
  deriving DecidableEq, Repr

def capabilities : Framework → Capabilities
  | .nextjs =>
    { name := "nextjs"
      description := "Next.js React components (TSX) styled with Tailwind CSS"
      outputFormats := ["tsx"]
      fileExtension := ".tsx"
      componentLibraries := Text.sorted (ComponentLibrary.all.map (·.name)) }
  | .vue =>
    { name := "vue"
      description := "Vue 3 single-file components with <script setup> and inline styles"
      outputFormats := ["vue", "typescript"]
      fileExtension := ".vue" }
  | .svelte =>
    { name := "svelte"
      description := "Svelte components with inline styles and SvelteKit navigation"
      outputFormats := ["svelte", "typescript"]
      fileExtension := ".svelte" }
  | .html =>
    { name := "html"
      description := "Standalone HTML documents with inline CSS, no framework"
      outputFormats := ["html"]
      fileExtension := ".html" }
  | .expo =>
    { name := "expo"
      description := "Expo / React Native components (TSX) with inline native styles"
      outputFormats := ["tsx"]
      fileExtension := ".tsx" }

/-- A class that may be registered as a backend; some classes are none. -/
structure BackendClass where
  className : String
  isBackend : Bool
  capabilities : Capabilities
  deriving DecidableEq, Repr

/-- Why a backend cannot be found or registered. -/
inductive BackendError where
  | unknown (name : String) (available : List String)
  | registered (name className : String)
  | notBackend (className : String)
  deriving DecidableEq, Repr

def BackendError.message : BackendError → String
  | unknown name available =>
    let list := "[" ++ ", ".intercalate (available.map Text.show_) ++ "]"
    s!"Backend '{name}' not found. Available backends: {list}"
  | registered name className =>
    s!"Backend '{name}' is already registered. Cannot register {className}."
  | notBackend className => s!"Backend class {className} must extend ScreenBackend"

/-- Backends by name. -/
structure BackendRegistry where
  backends : List (String × BackendClass)

namespace BackendRegistry

def empty : BackendRegistry := ⟨[]⟩

def names (r : BackendRegistry) : List String := Text.sorted (Fields.keys r.backends)

def register (r : BackendRegistry) (name : String) (c : BackendClass) :
    Except BackendError BackendRegistry :=
  if Fields.has r.backends name then .error (.registered name c.className)
  else if !c.isBackend then .error (.notBackend c.className)
  else .ok ⟨r.backends ++ [(name, c)]⟩

def get? (r : BackendRegistry) (name : String) : Except BackendError BackendClass :=
  match Fields.get? r.backends name with
  | some c => .ok c
  | none => .error (.unknown name r.names)

end BackendRegistry

/-- The names of the targets, sorted. -/
def targetNames : List String := Text.sorted (Framework.all.map Framework.name)

/-- The target of a name. -/
def target? (name : String) : Except BackendError Framework :=
  match Framework.ofName? name with
  | some f => .ok f
  | none => .error (.unknown name targetNames)

end Screenwright.Emit

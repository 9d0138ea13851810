import Screenwright.Files.Tree
import Screenwright.Plugin
import Screenwright.Project.Components
import Screenwright.Project.Config
import Screenwright.Tokens
import Screenwright.Validation.Validator

/-! Projects: a directory with its files, and what is read from them. -/
namespace Screenwright

/-- A value that a plugin module exports. -/
inductive PluginExport where
  | plugin (p : NodePlugin)
  /-- A list, whose items may be no plugins. -/
  | list (items : List (Option NodePlugin))
  | other (isEmpty : Bool)

/-- The exports of a plugin module by name. -/
abbrev PluginModule := Fields PluginExport

/-- A project's directory in a file tree, and the exports of the plugin modules in it. -/
structure Project where
  root : Path
  files : FileTree
  modules : List (Path × PluginModule) := []

/-- Why a configuration cannot be used. -/
inductive ConfigError where
  | missing (path : String)
  | unreadable (path detail : String)
  | malformed (path detail : String)
  | notObject
  | invalid (faults : List RecordFault)
  | oversized (e : OversizedInteger)
  deriving DecidableEq, Repr

def configFile : String := "studio.config.json"

namespace ConfigError

/-- The place of a fault as names between dots. -/
def dotted (places : List Place) : String :=
  ".".intercalate (places.map fun
    | .key k => k
    | .index i => toString i)

def message : ConfigError → String
  | missing path =>
    s!"Config file not found at {path}. Create a {configFile} in the project root."
  | unreadable path detail => s!"Failed to read config file: {path}: {detail}"
  | malformed path detail => s!"Invalid JSON in {path}: {detail}"
  | notObject => s!"{configFile}: must contain a JSON object"
  | invalid faults =>
    s!"{configFile}: " ++
      "; ".intercalate (faults.map fun f => dotted f.place ++ ": " ++ f.kind.message)
  | oversized e => e.message

/-- The record faults behind an error, if it has any. -/
def faults? : ConfigError → Option (List RecordFault)
  | invalid faults => some faults
  | _ => none

end ConfigError

/-- A screen document that was read and not yet validated. -/
structure DiscoveredScreen where
  path : Path
  document : Json

namespace DiscoveredScreen

/-- The route that a document claims; a document without one sorts first. -/
def route (s : DiscoveredScreen) : String :=
  ((s.document.get? "route").bind Json.asString?).getD ""

def name (s : DiscoveredScreen) : String := s.path.name

/-- Screens are ordered by route, those of one route by name. -/
def before (s t : DiscoveredScreen) : Bool :=
  if s.route = t.route then decide (s.name ≤ t.name) else decide (s.route < t.route)

end DiscoveredScreen

def screenSuffix : String := ".screen.json"

namespace Project

/-- The path of a file that the configuration names. -/
def resolve (p : Project) (relative : String) : Path := p.root.resolve (Path.ofText relative)

/-- Reads the configuration of a project. -/
def loadConfig (p : Project) : Except ConfigError Config :=
  let path := p.root.child configFile
  match p.files.readText path with
  | .error e =>
    if e.kind = .notFound then .error (.missing path.toText)
    else .error (.unreadable path.toText e.message)
  | .ok text =>
    match Json.ofText text with
    | .error (.malformed detail) => .error (.malformed path.toText detail)
    | .error (.oversized e) => .error (.oversized e)
    | .ok document =>
      match document with
      | .obj fs => (Config.ofFields fs).toExcept.mapError .invalid
      | _ => .error .notObject

/-- Reads a JSON document; `what` names it in messages. -/
def readJson (p : Project) (path : Path) (what : String) : Except LoadError Json :=
  match p.files.readText path with
  | .error e =>
    if e.kind = .notFound then .error (.missing what path.toText)
    else .error (.unreadable what path.toText e.message)
  | .ok text => (Json.ofText text).mapError (.ofText (.malformed path.toText))

/-- Reads a token table. -/
def readTokens (p : Project) (path : Path) : Except LoadError Tokens :=
  match p.files.readText path with
  | .error e =>
    if e.kind = .notFound then .error (.missingTokens path.toText)
    else .error (.unreadableTokens path.toText e.message)
  | .ok text =>
    match Json.ofText text with
    | .error e => .error (.ofText (.malformedTokens path.toText) e)
    | .ok document =>
      match document with
      | .obj fs => (Tokens.ofDocument fs).toExcept.mapError (.invalidTokens path.toText)
      | _ => .error (.tokensNotObject path.toText)

/-- A setting that names a file; the empty text names none. -/
def setting? (s : Option String) : Option String := s.filter (· != "")

/-- The token table of a project, if one is configured. -/
def loadTokens (p : Project) (c : Config) : Except LoadError (Option Tokens) :=
  match setting? c.tokens with
  | none => .ok none
  | some file => (p.readTokens (p.resolve file)).map some

/-- The component definitions of a project; without a file for them it has none. -/
def loadComponents (p : Project) (c : Config) : Except LoadError (List ComponentDef) :=
  match setting? c.components with
  | none => .ok []
  | some file => do
    let path := p.resolve file
    ComponentDef.ofDocument path.toText (← p.readJson path "Component registry")

/-- The screen documents of a project by route and name. -/
def screens (p : Project) (c : Config) : Except LoadError (List DiscoveredScreen) :=
  let directory := p.resolve c.screensDir
  if !p.files.isDirectory directory then .error (.missingScreens directory.toText)
  else
    match Text.sorted ((p.files.namesIn directory).filter (·.endsWith screenSuffix)) with
    | [] => .error (.noScreens directory.toText)
    | names => do
      let found ← names.mapM fun name =>
        let path := directory.child name
        (p.readJson path "Screen spec").map (DiscoveredScreen.mk path)
      pure (found.mergeSort DiscoveredScreen.before)

/-- The validator of a project: its schema file, or the walk where that is unusable. -/
def validator (p : Project) (c : Config) : Validator :=
  .ofText (p.files.readText (p.resolve c.schemaPath)).toOption

end Project
end Screenwright

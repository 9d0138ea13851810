import Screenwright.Compilation
import Screenwright.Lint
import Screenwright.Project.Plugins
import Screenwright.Project.ScreenName

/-! Runs on a project: compiling its screens, linting them, adding a screen, writing the schema. -/
namespace Screenwright

/-- Why a screen cannot be added. -/
inductive ScaffoldError where
  | badName (fault : ScreenName.Fault)
  | taken (name path : String)
  deriving DecidableEq, Repr

def ScaffoldError.message : ScaffoldError → String
  | badName fault => fault.message
  | taken name path => s!"{name} already exists at {path}"

/-- What is wrong with a project or a request, told to its user. -/
inductive ProjectError where
  | config (e : ConfigError)
  | load (e : LoadError)
  | plugin (e : PluginError)
  | scaffold (e : ScaffoldError)
  deriving DecidableEq, Repr

def ProjectError.message : ProjectError → String
  | config e => e.message
  | load e => e.message
  | plugin e => e.message
  | scaffold e => e.message

/-- Why a run ends early: an error of the project, a value that no rule covers, or a file that
cannot be written. -/
inductive Interruption where
  | refused (e : ProjectError)
  | unusable (e : LintFault)
  | file (e : FileFault)
  deriving DecidableEq, Repr

def Interruption.message : Interruption → String
  | refused e => e.message
  | unusable e => e.message
  | file e => e.message

/-- A compilation whose files were written, but for those that were there unchanged. -/
structure WrittenCompilation extends Compilation where
  skipped : Nat

namespace FileTree

/-- Writes a generated file unless it is there already. -/
def writeChanged (t : FileTree) (root : Path) (f : Emit.File) :
    FileTree × Except FileFault Bool :=
  let path := root.join (Path.ofText f.path)
  if t.contents? path = some f.contents then (t, .ok false)
  else
    let r := t.writeWithDirectory path f.contents
    (r.1, r.2.map fun _ => true)

/-- Writes generated files up to the first that cannot be written, and counts those that were there
already. -/
def writeOutput (t : FileTree) (root : Path) : List Emit.File → FileTree × Except FileFault Nat
  | [] => (t, .ok 0)
  | f :: fs =>
    match t.writeChanged root f with
    | (t, .error e) => (t, .error e)
    | (t, .ok written) =>
      let r := t.writeOutput root fs
      (r.1, r.2.map fun skipped => if written then skipped else skipped + 1)

/-- Writes the schema of screen documents. -/
def writeSchema (t : FileTree) (path : Path) : FileTree × Except FileFault Unit :=
  t.writeWithDirectory path (ScreenSchema.document.toJson.document 0 ++ "\n")

end FileTree

namespace Project

def refuse {ε α : Type} (f : ε → ProjectError) (x : Except ε α) : Except Interruption α :=
  x.mapError fun e => .refused (f e)

/-- The compiler of a project. -/
def compiler (p : Project) (c : Config) : Except Interruption Compiler := do
  let tokens ← refuse .load (p.loadTokens c)
  let defs ← refuse .load (p.loadComponents c)
  let plugins ← refuse .plugin (p.loadPlugins c.plugins)
  pure
    { target := c.framework
      context := .create c tokens plugins
      registry := .ofDefs defs
      validator := p.validator c }

/-- A screen as a source, named by its path within the project. -/
def source (p : Project) (s : DiscoveredScreen) : SourceScreen :=
  ⟨s.path.shownFrom p.root, s.document⟩

/-- Compiles the screens of a project; `schedule` tells how a batch of a given size is shared. -/
def compile (p : Project) (c : Config) (schedule : Nat → Schedule) :
    Except Interruption Compilation := do
  let compiler ← p.compiler c
  let screens ← refuse .load (p.screens c)
  let sources := screens.map p.source
  (compiler.compile sources (schedule sources.length)).mapError fun f => .unusable (.unchecked f)

/-- Writes the files of a compilation. -/
def write (p : Project) (r : Compilation) : Project × Except Interruption WrittenCompilation :=
  let w := p.files.writeOutput p.root r.files
  ({ p with files := w.1 }, (w.2.mapError .file).map fun skipped => { r with skipped := skipped })

/-- Compiles the screens of a project and writes the files unless it is a trial. -/
def compileInto (p : Project) (c : Config) (isTrial : Bool) (schedule : Nat → Schedule) :
    Project × Except Interruption WrittenCompilation :=
  match p.compile c schedule with
  | .error e => (p, .error e)
  | .ok r => if isTrial then (p, .ok { r with skipped := 0 }) else p.write r

def subject (p : Project) (s : DiscoveredScreen) : Lint.Subject :=
  ⟨s.path.shownFrom p.root, s.name, s.document⟩

/-- Lints the screens of a project. -/
def lint (p : Project) (c : Config) : Except Interruption (List LintIssue) := do
  let screens ← refuse .load (p.screens c)
  (Lint.issues (p.validator c) (screens.map p.subject)).mapError .unusable

/-- Adds a screen with a starting document. -/
def addScreen (p : Project) (c : Config) (name : String) : Project × Except Interruption Path :=
  match ScreenName.check name with
  | some fault => (p, .error (.refused (.scaffold (.badName fault))))
  | none =>
    let directory := p.resolve c.screensDir
    let path := directory.child (name ++ screenSuffix)
    if p.files.pathExists path then
      (p, .error (.refused (.scaffold (.taken path.name path.toText))))
    else
      let w := p.files.writeWithDirectory path ((ScreenName.template name).document 0 ++ "\n")
      ({ p with files := w.1 }, (w.2.mapError .file).map fun _ => path)

end Project
end Screenwright

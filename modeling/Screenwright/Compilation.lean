import Screenwright.Emit.Backend
import Screenwright.Reference.Resolution
import Screenwright.Text.Tidy
import Screenwright.Validation.Validator

/-! Compilation of a batch of screens: each document is validated, its references are resolved and
its file is emitted. A screen that fails does not stop the others. -/
namespace Screenwright

/-- A raw document with the name under which its failure is reported. -/
structure SourceScreen where
  name : String
  document : Json

/-- A screen as it is given to a compiler: a raw document, or a screen that has been read. -/
inductive ScreenInput where
  | document (raw : Json)
  | screen (spec : ScreenSpec)

/-- The document of an input; a screen is written as one. -/
def ScreenInput.toJson : ScreenInput → Json
  | document raw => raw
  | screen spec => spec.toJson

/-- What the screens of a batch share. -/
structure Compiler where
  target : Framework
  context : Emit.Context
  registry : Registry
  validator : Validator

/-- Why a screen has no file. -/
inductive ScreenFailure where
  | invalid (e : InvalidScreen)
  | emission (name : String) (e : Emit.EmitError)
  deriving DecidableEq, Repr

namespace ScreenFailure

def screen : ScreenFailure → String
  | invalid e => e.name
  | emission name _ => name

def message : ScreenFailure → String
  | invalid e => e.message
  | emission _ e => "Emit failed: " ++ e.message

end ScreenFailure

/-- What became of a screen. -/
abbrev ScreenResult := Except ScreenFailure Emit.EmittedScreen

/-- How a batch is shared out: the number of workers, and the places of its screens in the order in
which the workers finish them. A single worker finishes them in the order of the batch. -/
structure Schedule where
  workers : Nat
  finished : List Nat
  deriving DecidableEq, Repr

namespace Schedule

def single : Schedule := ⟨1, []⟩

/-- Workers that finish a batch of the given size in its order. -/
def inOrder (workers size : Nat) : Schedule := ⟨workers, List.range size⟩

/-- Whether workers share a batch of the given size. -/
def isShared (s : Schedule) (size : Nat) : Bool := decide (1 < s.workers) && decide (1 < size)

end Schedule

/-- The files of a batch, the index last, and the screens that have none. -/
structure Compilation where
  files : List Emit.File
  failures : List ScreenFailure
  succeeded : Nat
  deriving DecidableEq, Repr

namespace Compilation

def isOk (c : Compilation) : Bool := c.failures.isEmpty

def failed (c : Compilation) : Nat := c.failures.length

end Compilation

namespace Compiler

/-- The screen with its references resolved; without definitions they stay as they are. -/
def resolved (c : Compiler) (spec : ScreenSpec) : ScreenSpec :=
  if c.registry.isEmpty then spec else { spec with tree := spec.tree.resolve c.registry }

/-- Compiles one screen; a document that cannot be checked ends the whole batch. -/
def compileScreen (c : Compiler) (s : SourceScreen) : Except CheckFault ScreenResult :=
  match c.validator.screen s.name s.document with
  | .error (.unchecked f) => .error f
  | .error (.invalid e) => .ok (.error (.invalid e))
  | .ok spec =>
    match c.context.plugins.treeIssues spec.tree with
    | i :: is => .ok (.error (.invalid ⟨s.name, i :: is⟩))
    | [] =>
      .ok ((Emit.emitScreen c.target c.context (c.resolved spec)).mapError (.emission s.name))

def emittedOf (results : List ScreenResult) : List Emit.EmittedScreen :=
  results.filterMap Except.toOption

def failuresOf (results : List ScreenResult) : List ScreenFailure :=
  results.filterMap fun
    | .ok _ => none
    | .error f => some f

def tidied (f : Emit.File) : Emit.File := { f with contents := Text.tidy f.contents f.path }

/-- Brings the results of a batch together and adds the index of its components. -/
def collect (c : Compiler) (results : List ScreenResult) : Compilation :=
  let emitted := emittedOf results
  let index := Emit.emitIndex c.target c.context.config (emitted.map (·.componentName))
  { files := (emitted.map (·.file) ++ [index]).map tidied
    failures := failuresOf results
    succeeded := emitted.length }

/-- Results at the places of their screens, whatever the order in which they arrive. -/
def arranged (size : Nat) (arrivals : List (Nat × ScreenResult)) : List ScreenResult :=
  (arrivals.foldl (fun slots a => slots.set a.1 (some a.2)) (List.replicate size none)).filterMap id

/-- The results of shared screens in the order in which they are finished. -/
def arrivals (c : Compiler) (screens : List SourceScreen) (finished : List Nat) :
    Except CheckFault (List (Nat × ScreenResult)) :=
  (finished.filterMap fun i => (screens[i]?).map fun s => (i, s)).mapM fun e =>
    (c.compileScreen e.2).map fun r => (e.1, r)

/-- The results of a batch in its order. -/
def results (c : Compiler) (s : Schedule) (screens : List SourceScreen) :
    Except CheckFault (List ScreenResult) :=
  if s.isShared screens.length then
    (c.arrivals screens s.finished).map (arranged screens.length)
  else screens.mapM c.compileScreen

/-- Compiles a batch of screens. -/
def compile (c : Compiler) (screens : List SourceScreen) (s : Schedule := .single) :
    Except CheckFault Compilation :=
  (c.results s screens).map c.collect

/-- The compiler of screens that are given to it, which no schema document checks. -/
def inMemory (config : Config) (registry : Registry) (tokens : Option Tokens)
    (plugins : PluginRegistry) : Compiler where
  target := config.framework
  context := .create config tokens plugins
  registry := registry
  validator := .walk

/-- Compiles screens in either form, each with its name. -/
def compileInputs (c : Compiler) (inputs : List (String × ScreenInput)) :
    Except CheckFault Compilation :=
  c.compile (inputs.map fun e => ⟨e.1, e.2.toJson⟩)

end Compiler
end Screenwright

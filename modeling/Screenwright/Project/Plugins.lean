import Screenwright.Project.Basic

/-! Plugin references: files, and members of modules in the project's directory. -/
namespace Screenwright

namespace PluginExport

/-- The plugins of an export, with gaps for what is no plugin. -/
def items : PluginExport → List (Option NodePlugin)
  | plugin p => [some p]
  | list items => items
  | other _ => [none]

/-- Whether an export counts as present. -/
def isFilled : PluginExport → Bool
  | plugin _ => true
  | list items => !items.isEmpty
  | other isEmpty => !isEmpty

end PluginExport

/-- The member for one plugin, and the one for several. -/
def singleExport : String := "PLUGIN"
def severalExport : String := "PLUGINS"

def moduleSuffix : String := ".py"

/-- The file that makes a package of a directory. -/
def packageFile : String := "__init__" ++ moduleSuffix

/-- A reference to a member of a module; an empty member means the usual ones. -/
structure ModuleReference where
  name : String
  member : String

/-- The parts of a reference before and after its first colon. -/
def ModuleReference.ofText (s : String) : ModuleReference :=
  let cs := s.toList
  ⟨String.ofList (cs.takeWhile (· != ':')), String.ofList ((cs.dropWhile (· != ':')).drop 1)⟩

/-- Where a module is: in a file, or in a directory with or without a file of its own. -/
inductive ModulePlace where
  | file (path : Path)
  | package (directory : Path)
  | bare (directory : Path)
  deriving DecidableEq, Repr

namespace ModulePlace

/-- The directory in which the modules of a package are. -/
def directory? : ModulePlace → Option Path
  | file _ => none
  | package d | bare d => some d

/-- The file with the exports of a module. -/
def file? : ModulePlace → Option Path
  | file path => some path
  | package d => some (d.child packageFile)
  | bare _ => none

/-- The members that modules have beside their exports, none of them a plugin. -/
def commonMembers : List String := [
  "__annotations__", "__class__", "__delattr__", "__dict__", "__dir__", "__doc__", "__eq__",
  "__file__", "__format__", "__ge__", "__getattribute__", "__getstate__", "__gt__", "__hash__",
  "__init__", "__init_subclass__", "__le__", "__loader__", "__lt__", "__name__", "__ne__",
  "__new__", "__package__", "__reduce__", "__reduce_ex__", "__repr__", "__setattr__",
  "__sizeof__", "__spec__", "__str__", "__subclasshook__"]

/-- Whether a module has a member beside its exports. -/
def hasMember (m : ModulePlace) (name : String) : Bool :=
  commonMembers.contains name || (m.directory?.isSome && name == "__path__") ||
    (m.file?.isSome && (name == "__builtins__" || name == "__cached__"))

end ModulePlace

/-- The names of a module and of the packages around it, the module last. -/
def moduleNames (name : String) : List String :=
  let parts := (name.toList.splitOn '.').map String.ofList
  (List.range parts.length).map fun n => ".".intercalate (parts.take (n + 1))

namespace Project

/-- Whether a directory of the tree has a file of a name. -/
def hasFile (p : Project) (directory : Path) (name : String) : Bool :=
  (p.files.namesIn directory).contains name && (p.files.contents? (directory.child name)).isSome

def hasDirectory (p : Project) (directory : Path) (name : String) : Bool :=
  (p.files.namesIn directory).contains name && p.files.isDirectory (directory.child name)

/-- The module of a name in a directory: a package comes before a file, and a file before a directory
that only holds modules. -/
def modulePlace? (p : Project) (directory : Path) (name : String) : Option ModulePlace :=
  if p.hasDirectory directory name && p.hasFile (directory.child name) packageFile then
    some (.package (directory.child name))
  else if p.hasFile directory (name ++ moduleSuffix) then
    some (.file (directory.child (name ++ moduleSuffix)))
  else if p.hasDirectory directory name then some (.bare (directory.child name))
  else none

/-- The module below a directory, `seen` being the names of the packages around it. -/
def modulePlace (p : Project) (directory : Path) (seen : List String) :
    List String → Except String ModulePlace
  | [] => .error "Empty module name"
  | part :: parts =>
    let name := ".".intercalate (seen ++ [part])
    match p.modulePlace? directory part, parts with
    | none, _ => .error ("No module named " ++ Text.show_ name)
    | some m, [] => .ok m
    | some m, next :: _ =>
      match m.directory? with
      | some d => modulePlace p d (seen ++ [part]) parts
      | none => .error ("No module named " ++ Text.show_ (name ++ "." ++ next) ++ "; " ++
          Text.show_ name ++ " is not a package")

/-- Finds a module by its dotted name. -/
def findModule (p : Project) (name : String) : Except String ModulePlace :=
  if name = "" then .error "Empty module name"
  else if name.startsWith "." then
    .error ("the 'package' argument is required to perform a relative import for " ++
      Text.show_ name)
  else p.modulePlace p.root [] ((name.toList.splitOn '.').map String.ofList)

/-- The exports of the module in a file. -/
def exportsOf (p : Project) (path : Path) : PluginModule := (p.modules.lookup path).getD []

/-- A member of the module of a name. Modules in a package are members of it once they are loaded,
and stand before its exports. -/
def member? (p : Project) (loaded : List String) (m : ModulePlace) (owner name : String) :
    Option PluginExport :=
  if loaded.contains (owner ++ "." ++ name) then some (.other false)
  else
    match (m.file?.map p.exportsOf).bind (Fields.get? · name) with
    | some e => some e
    | none => if m.hasMember name then some (.other false) else none

/-- What a reference to a module means when modules were loaded before it. -/
def importModule (p : Project) (loaded : List String) (r : ModuleReference) :
    Except String PluginExport := do
  let m ← p.findModule r.name
  let loaded := loaded ++ moduleNames r.name
  let member := fun (name : String) =>
    match p.member? loaded m r.name name with
    | some e => Except.ok e
    | none => .error s!"module '{r.name}' has no attribute '{name}'"
  if r.member ≠ "" then member r.member
  else
    match (p.member? loaded m r.name severalExport).filter PluginExport.isFilled with
    | some e => pure e
    | none => member singleExport

/-- What a reference to a file means. -/
def importFile (p : Project) (reference : String) : Except PluginError PluginExport :=
  let path := p.resolve reference
  match p.files.readText path with
  | .error e => .error (.notLoaded reference e.message)
  | .ok _ =>
    let m := p.exportsOf path
    match Fields.get? m severalExport <|> Fields.get? m singleExport with
    | some e => .ok e
    | none => .error (.noExports path.toText)

def isFileReference (reference : String) : Bool := reference.endsWith moduleSuffix

/-- The modules that a reference loads. -/
def modulesLoaded (reference : String) : List String :=
  if isFileReference reference then [] else moduleNames (ModuleReference.ofText reference).name

/-- What a reference means when others were followed before it. -/
def importReference (p : Project) (before : List String) (reference : String) :
    Except PluginError PluginExport :=
  if isFileReference reference then p.importFile reference
  else (p.importModule (before.flatMap modulesLoaded) (.ofText reference)).mapError
    (.notLoaded reference)

/-- Registers the plugins of a reference. -/
def registerExport (reference : String) (r : PluginRegistry) (e : PluginExport) :
    Except PluginError PluginRegistry :=
  e.items.foldlM (fun r item =>
    match item with
    | none => .error (.notPlugins reference)
    | some plugin => r.register plugin) r

/-- Registers the plugins of references, others having been followed before. -/
def loadPluginsAfter (p : Project) (before : List String) (r : PluginRegistry) :
    List String → Except PluginError PluginRegistry
  | [] => .ok r
  | reference :: rest => do
    let r ← registerExport reference r (← p.importReference before reference)
    loadPluginsAfter p (before ++ [reference]) r rest

/-- The plugins of a list of references. -/
def loadPlugins (p : Project) (references : List String) : Except PluginError PluginRegistry :=
  p.loadPluginsAfter [] .empty references

end Project
end Screenwright

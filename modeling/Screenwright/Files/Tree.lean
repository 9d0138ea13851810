import Screenwright.Files.Path
import Screenwright.Json.Text
import Screenwright.Text.Lines
import Screenwright.Text.Sorted

/-! A tree of files and directories as a value, with the faults of reading and writing. -/
namespace Screenwright

inductive FileFaultKind where
  | notFound
  | alreadyExists
  | notDirectory
  | isDirectory
  deriving DecidableEq, Repr

def FileFaultKind.number : FileFaultKind → Nat
  | notFound => 2
  | alreadyExists => 17
  | notDirectory => 20
  | isDirectory => 21

def FileFaultKind.description : FileFaultKind → String
  | notFound => "No such file or directory"
  | alreadyExists => "File exists"
  | notDirectory => "Not a directory"
  | isDirectory => "Is a directory"

/-- What is wrong with the file at a path. -/
structure FileFault where
  kind : FileFaultKind
  path : Path
  deriving DecidableEq, Repr

def FileFault.message (e : FileFault) : String :=
  s!"[Errno {e.kind.number}] {e.kind.description}: " ++ Text.show_ e.path.toText

inductive FileEntry where
  | file (contents : String)
  | directory
  deriving DecidableEq, Repr

/-- Files and directories by the names that lead to them; the top is a directory of no name. -/
structure FileTree where
  entries : List (List String × FileEntry)
  deriving DecidableEq, Repr

namespace FileTree

def empty : FileTree := ⟨[]⟩

def get? (t : FileTree) (place : List String) : Option FileEntry :=
  if place.isEmpty then some .directory else t.entries.lookup place

/-- Sets the entry at a place. -/
def setEntry (place : List String) (e : FileEntry) :
    List (List String × FileEntry) → List (List String × FileEntry)
  | [] => [(place, e)]
  | (p, x) :: rest => if p = place then (p, e) :: rest else (p, x) :: setEntry place e rest

def set (t : FileTree) (place : List String) (e : FileEntry) : FileTree :=
  ⟨setEntry place e t.entries⟩

/-- Goes from a place through directories; the last name may be new. -/
def walkFrom (t : FileTree) (place : List String) : List String → Except FileFaultKind (List String)
  | [] => .ok place
  | part :: parts =>
    match t.get? place with
    | none => .error .notFound
    | some (.file _) => .error .notDirectory
    | some .directory =>
      walkFrom t (if part = ".." then place.dropLast else place ++ [part]) parts

/-- The place of a path. -/
def locate (t : FileTree) (p : Path) : Except FileFaultKind (List String) := t.walkFrom [] p.parts

/-- The entry at a path, if it leads to one. -/
def entry? (t : FileTree) (p : Path) : Option FileEntry :=
  match t.locate p with
  | .ok place => t.get? place
  | .error _ => none

def pathExists (t : FileTree) (p : Path) : Bool := (t.entry? p).isSome

def isDirectory (t : FileTree) (p : Path) : Bool :=
  match t.entry? p with
  | some .directory => true
  | _ => false

/-- The contents at a path, if it is a file. -/
def contents? (t : FileTree) (p : Path) : Option String :=
  match t.entry? p with
  | some (.file s) => some s
  | _ => none

/-- Reads a file as text with line feeds. -/
def readText (t : FileTree) (p : Path) : Except FileFault String :=
  match t.locate p with
  | .error kind => .error ⟨kind, p⟩
  | .ok place =>
    match t.get? place with
    | none => .error ⟨.notFound, p⟩
    | some .directory => .error ⟨.isDirectory, p⟩
    | some (.file s) => .ok (String.ofList (Text.unixLineEnds s.toList))

/-- Writes a file whose directory is there. -/
def writeFile (t : FileTree) (p : Path) (contents : String) : Except FileFault FileTree :=
  match t.locate p with
  | .error kind => .error ⟨kind, p⟩
  | .ok place =>
    match t.get? place with
    | some .directory => .error ⟨.isDirectory, p⟩
    | some (.file _) => .ok (t.set place (.file contents))
    | none =>
      match t.get? place.dropLast with
      | some .directory => .ok (t.set place (.file contents))
      | some (.file _) => .error ⟨.notDirectory, p⟩
      | none => .error ⟨.notFound, p⟩

/-- Adds one directory to a directory that is there. -/
def makeDirectory (t : FileTree) (p : Path) : Except FileFaultKind FileTree :=
  match t.locate p with
  | .error kind => .error kind
  | .ok place =>
    match t.get? place, t.get? place.dropLast with
    | some _, _ => .error .alreadyExists
    | none, some .directory => .ok (t.set place .directory)
    | none, some (.file _) => .error .notDirectory
    | none, none => .error .notFound

/-- Makes sure that a path is a directory inside a directory that is there. -/
def ensureDirectory (t : FileTree) (p : Path) : Except FileFault FileTree :=
  match t.makeDirectory p with
  | .ok t => .ok t
  | .error kind => if t.isDirectory p then .ok t else .error ⟨kind, p⟩

/-- Makes sure that a path is a directory. Only where a directory on the way is missing are those on
the way made too. -/
def makeDirectories (t : FileTree) (p : Path) : Except FileFault FileTree :=
  match t.makeDirectory p with
  | .error .notFound => p.ancestors.foldlM ensureDirectory t
  | _ => t.ensureDirectory p

/-- Writes a file, with its directory where that is missing. -/
def writeWithDirectory (t : FileTree) (p : Path) (contents : String) :
    FileTree × Except FileFault Unit :=
  match t.makeDirectories p.parent with
  | .error e => (t, .error e)
  | .ok t =>
    match t.writeFile p contents with
    | .error e => (t, .error e)
    | .ok t => (t, .ok ())

/-- The names in a directory, in no order that means anything. -/
def namesIn (t : FileTree) (p : Path) : List String :=
  match t.locate p with
  | .error _ => []
  | .ok place => t.entries.filterMap fun e =>
      if e.1.dropLast = place ∧ e.1 ≠ [] then e.1.getLast? else none

/-- Takes an entry away, with all that is in it. -/
def delete (t : FileTree) (p : Path) : Except FileFault FileTree :=
  match t.locate p with
  | .error kind => .error ⟨kind, p⟩
  | .ok place =>
    match t.get? place with
    | none => .error ⟨.notFound, p⟩
    | some _ => .ok ⟨t.entries.filter fun e => !place.isPrefixOf e.1⟩

/-- The texts of the paths of all files below a path, in order. -/
def filesBelow (t : FileTree) (p : Path) : List String :=
  match t.locate p with
  | .error _ => []
  | .ok place => Text.sorted (t.entries.filterMap fun e =>
      match e.2 with
      | .file _ =>
        if place.isPrefixOf e.1 then some ("/".intercalate (e.1.drop place.length)) else none
      | .directory => none)

end FileTree
end Screenwright

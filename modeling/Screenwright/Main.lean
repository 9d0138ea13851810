import Screenwright.CommandLine.Run

/-! The program: the files below a project are read into a tree, the command line is run on it, and
the files that it changed are written. -/
namespace Screenwright.Program

/-- The place of an absolute path. -/
def placeOf (path : String) : List String := (Path.ofText path).parts

/-- The real path of what is at a path, if there is something. -/
def real? (path : String) :=
  (try some <$> IO.FS.realPath path catch _ => pure none : IO (Option _))

/-- The entry of a path and all entries below it; what is no text is left out. -/
partial def entriesAt (path : String) : IO (List (List String × FileEntry)) := do
  match ← real? path with
  | none => pure []
  | some real =>
    if ← real.isDir then
      let below ← (← real.readDir).toList.mapM fun e => entriesAt (path ++ "/" ++ e.fileName)
      pure ((placeOf path, .directory) :: below.flatten)
    else
      try
        let contents ← IO.FS.readFile real
        pure [(placeOf path, .file contents)]
      catch _ => pure []

/-- The directories on the way to a path that are there. -/
def directoriesTo (p : Path) : IO (List (List String × FileEntry)) := do
  let found ← p.ancestors.mapM fun a => do
    match ← real? a.toText with
    | none => pure []
    | some real => pure (if ← real.isDir then [(a.parts, FileEntry.directory)] else [])
  pure found.flatten

def withEntries (t : FileTree) (entries : List (List String × FileEntry)) : FileTree :=
  entries.foldl (fun t e => if (t.get? e.1).isSome then t else t.set e.1 e.2) t

/-- The paths that a configuration names. -/
def inputPaths (p : Project) (c : Config) : List Path :=
  (c.screensDir :: c.schemaPath :: c.generatedDir ::
    ((Project.setting? c.tokens).toList ++ (Project.setting? c.components).toList)).map p.resolve

/-- The path that a request writes to regardless of the project. -/
def outputOf? : CommandLine.Request → Option String
  | .schema _ output => output
  | _ => none

/-- The path of the project that a request is about. -/
def projectOf : CommandLine.Request → String
  | .compile project .. | .validate project | .lint project | .schema project _
  | .addScreen _ project => project
  | .backends | .version | .help => CommandLine.Request.defaultProject

/-- The tree of the files that a request may read. -/
def readTree (here : Path) (r : CommandLine.Request) : IO FileTree := do
  let root := here.resolve (.ofText (projectOf r))
  let output := here.resolve (.ofText ((outputOf? r).getD "."))
  let t := withEntries .empty ((← directoriesTo here) ++ (← directoriesTo root) ++
    (← directoriesTo output))
  let t := withEntries t (← entriesAt (root.child configFile).toText)
  let p : Project := { root := root, files := t }
  match p.loadConfig with
  | .error _ => pure t
  | .ok c =>
    (inputPaths p c).foldlM (fun t path => do
      pure (withEntries (withEntries t (← directoriesTo path)) (← entriesAt path.toText))) t

/-- Writes the files that differ between two trees. -/
def writeChanges (before after : FileTree) : IO Unit :=
  after.entries.forM fun e => do
    if before.get? e.1 ≠ some e.2 then
      let path := "/" ++ "/".intercalate e.1
      match e.2 with
      | .directory => IO.FS.createDirAll path
      | .file contents => IO.FS.writeFile path contents

/-- What is said beside the version. -/
def environment : String := "Lean 4"

/-- Runs the arguments in the current directory. -/
def runProgram (argv : List String) : IO UInt32 := do
  let here := Path.ofText (← IO.currentDir).toString
  let files ← match CommandLine.Request.ofArguments argv with
    | some r => readTree here r
    | none => pure FileTree.empty
  let (after, outcome) := CommandLine.runArguments environment { root := here, files := files } argv
  writeChanges files after
  IO.print outcome.outputText
  IO.eprint outcome.errorText
  if let some b := outcome.breakdown then IO.eprintln b.message
  pure (UInt32.ofNat outcome.exitCode)

end Screenwright.Program

def main (argv : List String) : IO UInt32 := Screenwright.Program.runProgram argv

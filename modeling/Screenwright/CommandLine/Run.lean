import Screenwright.CommandLine.Markup
import Screenwright.CommandLine.Outcome
import Screenwright.CommandLine.Request
import Screenwright.CommandLine.Table
import Screenwright.Project.Run

/-! Running requests: what each command does to the files of a project, and what it says. -/
namespace Screenwright.CommandLine

/-- The project at a path, seen from the directory of another one. -/
def projectAt (here : Project) (path : String) : Project := { here with root := here.resolve path }

/-- The outcome of a run that ended early: what is wrong with a project is said, but nothing is said
of an integer of too many digits, a value that no rule covers or a file that cannot be written. -/
def interrupted : Interruption → Outcome
  | .refused (.config (.oversized e)) | .refused (.load (.oversized e)) => .broken (.oversized e)
  | .refused e =>
    { exitCode := Outcome.failureCode, errors := [said ("Error: " ++ e.message)] }
  | .unusable e => .broken (.unusable e)
  | .file e => .broken (.file e)

/-! ### compile -/

def trialMark (isTrial : Bool) : String := if isTrial then " (dry run)" else ""

def compileTable (isTrial : Bool) (r : WrittenCompilation) : Table :=
  { title := "Compile summary" ++ trialMark isTrial
    columns := [⟨"Succeeded", [toString r.succeeded]⟩, ⟨"Failed", [toString r.failed]⟩,
      ⟨"Skipped (unchanged)", [toString r.skipped]⟩, ⟨"Files", [toString r.files.length]⟩] }

/-- The paths that a trial would have written. -/
def trialLines (isTrial : Bool) (r : WrittenCompilation) : List String :=
  if isTrial then r.files.map fun f => said ("Would generate: " ++ f.path) else []

def failureLines (failures : List ScreenFailure) : List String :=
  match failures with
  | [] => []
  | _ => s!"\nCompile completed with {failures.length} error(s):" ::
      failures.map fun f => said s!"  - {f.screen}: {f.message}"

def compileOutcome (isTrial : Bool) (r : WrittenCompilation) : Outcome :=
  { exitCode := Outcome.codeOf !r.isOk
    output := trialLines isTrial r ++ (compileTable isTrial r).lines
    errors := failureLines r.failures }

def runCompile (p : Project) (isTrial : Bool) (workers : Nat) : Project × Outcome :=
  match p.loadConfig with
  | .error e => (p, interrupted (.refused (.config e)))
  | .ok c =>
    match p.compileInto c isTrial (Schedule.inOrder workers) with
    | (p, .error e) => (p, interrupted e)
    | (p, .ok r) => (p, compileOutcome isTrial r)

/-! ### validate -/

/-- What validation says of a screen; nothing of a valid one. -/
def screenLines (v : Validator) (plugins : PluginRegistry) (s : DiscoveredScreen) :
    Except CheckFault (List String) :=
  match v.screen s.name s.document with
  | .error (.unchecked f) => .error f
  | .error (.invalid e) => .ok [said e.message]
  | .ok spec =>
    match plugins.treeIssues spec.tree with
    | [] => .ok []
    | issues =>
      .ok (said s!"{s.name} failed plugin validation with {issues.length} issue(s):" ::
        issues.map fun i => said ("  " ++ i.line))

/-- Validates screens, `failed` of `total` being known to be invalid. A document that cannot be
checked ends the run. -/
def validateScreens (v : Validator) (plugins : PluginRegistry) (total failed : Nat) :
    List DiscoveredScreen → Outcome
  | [] =>
    { exitCode := Outcome.codeOf (failed != 0)
      output := [s!"{total - failed}/{total} screen(s) valid"] }
  | s :: rest =>
    match screenLines v plugins s with
    | .error f => .broken (.unusable (.unchecked f))
    | .ok lines =>
      let o := validateScreens v plugins total (if lines.isEmpty then failed else failed + 1) rest
      { o with errors := lines ++ o.errors }

/-- The configuration, the screens and the plugins of a project. -/
def validationInputs (p : Project) :
    Except ProjectError (Config × List DiscoveredScreen × PluginRegistry) := do
  let c ← p.loadConfig.mapError .config
  let screens ← (p.screens c).mapError .load
  let plugins ← (p.loadPlugins c.plugins).mapError .plugin
  pure (c, screens, plugins)

def runValidate (p : Project) : Outcome :=
  match validationInputs p with
  | .error e => interrupted (.refused e)
  | .ok (c, screens, plugins) =>
    validateScreens (p.validator c) plugins screens.length 0 screens

/-! ### lint -/

/-- A column of one part of each issue, which may hold markup. -/
def issueColumn (issues : List LintIssue) (heading : String) (part : LintIssue → String) :
    Except Markup.Fault Column :=
  (issues.mapM fun i => Markup.plain (part i)).map (Column.mk heading)

def issueTable (issues : List LintIssue) : Except Markup.Fault Table := do
  let severities ← issueColumn issues "Severity" (·.severity.name)
  let rules ← issueColumn issues "Rule" (·.rule.name)
  let files ← issueColumn issues "File" (·.file)
  let messages ← issueColumn issues "Message" (·.message)
  pure
    { title := s!"{issues.length} lint issue(s)"
      columns := [severities, rules, files, messages] }

def lintOutcome (issues : List LintIssue) : Outcome :=
  if issues.isEmpty then { output := ["No issues found"] }
  else
    match issueTable issues with
    | .error e => .broken (.markup e)
    | .ok t => { exitCode := Outcome.codeOf (Lint.hasErrors issues), output := t.lines }

def runLint (p : Project) : Outcome :=
  match p.loadConfig with
  | .error e => interrupted (.refused (.config e))
  | .ok c =>
    match p.lint c with
    | .error e => interrupted e
    | .ok issues => lintOutcome issues

/-! ### schema -/

/-- Writes the schema to a path, which is shown as it was given. -/
def writeSchemaTo (p : Project) (path shown : Path) : Project × Outcome :=
  match p.files.writeSchema path with
  | (files, .error e) => ({ p with files := files }, interrupted (.file e))
  | (files, .ok ()) =>
    ({ p with files := files }, { output := [said ("Wrote schema: " ++ shown.toText)] })

/-- Writes the schema to the output, or where the configuration of the project wants it. -/
def runSchema (here : Project) (project : String) (output : Option String) : Project × Outcome :=
  match output with
  | some text => writeSchemaTo here (here.root.join (Path.ofText text)) (Path.ofText text)
  | none =>
    let p := projectAt here project
    match p.loadConfig with
    | .error e => (here, interrupted (.refused (.config e)))
    | .ok c => writeSchemaTo p (p.resolve c.schemaPath) (p.resolve c.schemaPath)

/-! ### add-screen and backends -/

def runAddScreen (p : Project) (name : String) : Project × Outcome :=
  match p.loadConfig with
  | .error e => (p, interrupted (.refused (.config e)))
  | .ok c =>
    match p.addScreen c name with
    | (p, .error e) => (p, interrupted e)
    | (p, .ok path) =>
      (p, { output := [said ("Created " ++ path.toText), "  route: " ++ ScreenName.route name,
        "\nRun `screenspec compile` to generate the component."] })

/-- The component libraries that a target knows. -/
def librariesText (c : Emit.Capabilities) : String :=
  if c.componentLibraries.isEmpty then "-" else ", ".intercalate c.componentLibraries

/-- The targets by name, and what each of them says of itself. -/
def backendTable : Table :=
  let targets := Emit.targetNames.filterMap Framework.ofName?
  let column := fun heading (part : Emit.Capabilities → String) =>
    Column.mk heading (targets.map fun f => part (Emit.capabilities f))
  { title := "Backends"
    columns := [⟨"Name", targets.map (·.name)⟩, column "Description" (·.description),
      column "Extension" (·.fileExtension), column "Component libraries" librariesText] }

/-! ### All requests -/

def programVersion : String := "screenspec 0.3.0"

def usage : String := "Usage: screenspec [--version] [--verbose] COMMAND [ARGS]..."

/-- The lines that list the commands. -/
def helpLines : List String := usage :: Verb.all.map fun v => "  " ++ v.name

/-- Runs a request from the directory of a project and gives the files after it; `environment` is
said beside the version. -/
def run (environment : String) (here : Project) : Request → FileTree × Outcome
  | .compile project isTrial workers =>
    filesOf (runCompile (projectAt here project) isTrial workers)
  | .validate project => (here.files, runValidate (projectAt here project))
  | .lint project => (here.files, runLint (projectAt here project))
  | .schema project output => filesOf (runSchema here project output)
  | .addScreen name project => filesOf (runAddScreen (projectAt here project) name)
  | .backends => (here.files, { output := backendTable.lines })
  | .version => (here.files, { output := [programVersion, environment] })
  | .help => (here.files, { output := helpLines })
where
  filesOf (r : Project × Outcome) : FileTree × Outcome := (r.1.files, r.2)

/-- Runs a command line; one that makes no request changes nothing and says how to make one. -/
def runArguments (environment : String) (here : Project) (argv : List String) :
    FileTree × Outcome :=
  match Request.ofArguments argv with
  | some r => run environment here r
  | none => (here.files, { exitCode := Outcome.usageCode, errors := [usage] })

end Screenwright.CommandLine

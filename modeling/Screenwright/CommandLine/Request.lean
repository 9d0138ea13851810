import Screenwright.Record.Numeral

/-! Command lines: the options and words of the arguments, and the requests that they make. -/
namespace Screenwright.CommandLine

/-- An option of the program or of one of its commands. -/
inductive Setting where
  | project
  | dryRun
  | workers
  | output
  | version
  | verbose
  | help
  deriving DecidableEq, Repr

namespace Setting

def all : List Setting := [project, dryRun, workers, output, version, verbose, help]

def longName : Setting → String
  | project => "project"
  | dryRun => "dry-run"
  | workers => "workers"
  | output => "output"
  | version => "version"
  | verbose => "verbose"
  | help => "help"

def letter? : Setting → Option Char
  | project => some 'p'
  | workers => some 'w'
  | output => some 'o'
  | verbose => some 'v'
  | dryRun | version | help => none

/-- Whether a value follows the option. -/
def takesValue : Setting → Bool
  | project | workers | output => true
  | dryRun | version | verbose | help => false

end Setting

/-- An option with its value, which is empty for one that takes none. -/
abbrev Given := Setting × String

/-- What an argument that starts with a hyphen says: options, and perhaps one whose value is the
argument after it. -/
structure OptionArgument where
  given : List Given
  pending : Option Setting

/-- The options of a run of letters; what follows the letter of an option with a value is its
value. -/
def readLetters (known : List Setting) : List Char → Option OptionArgument
  | [] => some ⟨[], none⟩
  | c :: rest => do
    let s ← known.find? (·.letter? == some c)
    if s.takesValue then
      match rest with
      | [] => pure ⟨[], some s⟩
      | value => pure ⟨[(s, String.ofList value)], none⟩
    else
      let more ← readLetters known rest
      pure { more with given := (s, "") :: more.given }

/-- The option of a long name, which may carry its value after an equals sign. -/
def readLong (known : List Setting) (cs : List Char) : Option OptionArgument := do
  let name := String.ofList (cs.takeWhile (· != '='))
  let s ← known.find? (·.longName == name)
  match cs.dropWhile (· != '='), s.takesValue with
  | [], true => pure ⟨[], some s⟩
  | [], false => pure ⟨[(s, "")], none⟩
  | _ :: value, true => pure ⟨[(s, String.ofList value)], none⟩
  | _ :: _, false => none

/-- Reads an argument with options; none if it is a word. The inner result is none where an option
is not known or misused. -/
def readOption? (known : List Setting) (arg : String) : Option (Option OptionArgument) :=
  match arg.toList with
  | '-' :: '-' :: name => some (readLong known name)
  | '-' :: c :: rest => some (readLetters known (c :: rest))
  | _ => none

/-- The options and the words of arguments. -/
structure Arguments where
  given : List Given := []
  words : List String := []

namespace Arguments

def withGiven (gs : List Given) (a : Arguments) : Arguments := { a with given := gs ++ a.given }

/-- Reads arguments. Two hyphens end the options, and so does the first word unless options may
follow words. -/
def read (known : List Setting) (optionsFollowWords : Bool) : List String → Option Arguments
  | [] => some {}
  | arg :: rest =>
    if arg = "--" then some { words := rest }
    else
      match readOption? known arg with
      | none =>
        if optionsFollowWords then
          (read known optionsFollowWords rest).map fun a => { a with words := arg :: a.words }
        else some { words := arg :: rest }
      | some none => none
      | some (some ⟨given, none⟩) => (read known optionsFollowWords rest).map (withGiven given)
      | some (some ⟨given, some s⟩) =>
        match rest with
        | [] => none
        | value :: rest =>
          (read known optionsFollowWords rest).map (withGiven (given ++ [(s, value)]))

def has (a : Arguments) (s : Setting) : Bool := a.given.any (·.1 == s)

/-- The value of an option; of several the last counts. -/
def value? (a : Arguments) (s : Setting) : Option String := a.given.reverse.lookup s

end Arguments

/-- The commands of the program. -/
inductive Verb where
  | compile
  | validate
  | lint
  | schema
  | addScreen
  | backends
  deriving DecidableEq, Repr

namespace Verb

def all : List Verb := [compile, validate, lint, schema, addScreen, backends]

def name : Verb → String
  | compile => "compile"
  | validate => "validate"
  | lint => "lint"
  | schema => "schema"
  | addScreen => "add-screen"
  | backends => "backends"

def settings : Verb → List Setting
  | compile => [.project, .dryRun, .workers, .help]
  | validate | lint | addScreen => [.project, .help]
  | schema => [.project, .output, .help]
  | backends => [.help]

end Verb

/-- What a command line asks for. -/
inductive Request where
  | compile (project : String) (isTrial : Bool) (workers : Nat)
  | validate (project : String)
  | lint (project : String)
  | schema (project : String) (output : Option String)
  | addScreen (name project : String)
  | backends
  | version
  | help
  deriving DecidableEq, Repr

/-- A count of at least one. -/
def count? (s : String) : Option Nat :=
  match Numeral.integer s with
  | .ok n => if 0 < n then some n.toNat else none
  | .error _ => none

namespace Request

/-- The directory meant where no project is given. -/
def defaultProject : String := "."

/-- The request of a command with its arguments. -/
def ofVerb (v : Verb) (a : Arguments) : Option Request :=
  let project := (a.value? .project).getD defaultProject
  if a.has .help then some .help
  else
    match v, a.words with
    | .compile, [] => do
      let workers ← count? ((a.value? .workers).getD "1")
      pure (.compile project (a.has .dryRun) workers)
    | .validate, [] => some (.validate project)
    | .lint, [] => some (.lint project)
    | .schema, [] => some (.schema project (a.value? .output))
    | .addScreen, [name] => some (.addScreen name project)
    | .backends, [] => some .backends
    | _, _ => none

/-- The request among options that stand before a command and settle all by themselves. -/
def immediate? (a : Arguments) : Option Request :=
  a.given.findSome? fun g =>
    match g.1 with
    | .version => some .version
    | .help => some .help
    | _ => none

/-- The options that stand before a command. -/
def globalSettings : List Setting := [.version, .verbose, .help]

/-- The request of a command line, if it is one. Words that name no command may still hold an option
that settles all by itself. -/
def ofArguments (argv : List String) : Option Request := do
  let a ← Arguments.read globalSettings false argv
  match immediate? a, a.words with
  | some r, _ => pure r
  | none, [] => none
  | none, word :: rest =>
    match Verb.all.find? (·.name == word) with
    | some v => ofVerb v (← Arguments.read v.settings true rest)
    | none => immediate? (← Arguments.read globalSettings false (word :: rest))

end Request
end Screenwright.CommandLine

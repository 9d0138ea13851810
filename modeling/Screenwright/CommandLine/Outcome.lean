import Screenwright.CommandLine.Markup
import Screenwright.Project.Run

/-! What a command leaves behind for its caller: an exit code, messages, and the reason where it
broke down. -/
namespace Screenwright.CommandLine

/-- The length of a terminal escape at the head of a text: the escape character, a bracket,
parameters and a letter. -/
def escapeLength? : List Char → Option Nat
  | '\x1b' :: '[' :: rest =>
    let parameters := rest.takeWhile fun c => c.isDigit || c == ';' || c == '?'
    match rest.drop parameters.length with
    | c :: _ => if c.isAlpha then some (parameters.length + 3) else none
    | [] => none
  | _ => none

/-- A text without terminal escapes; `skip` counts the characters left of one. -/
def dropEscapes : Nat → List Char → List Char
  | _, [] => []
  | skip + 1, _ :: rest => dropEscapes skip rest
  | 0, c :: rest =>
    match escapeLength? (c :: rest) with
    | some (n + 1) => dropEscapes n rest
    | _ => c :: dropEscapes 0 rest

/-- A message as it is said. -/
def said (s : String) : String := String.ofList (dropEscapes 0 s.toList)

/-- Why a command broke down without telling its user. -/
inductive Breakdown where
  | file (e : FileFault)
  | unusable (e : LintFault)
  | oversized (e : OversizedInteger)
  | markup (e : Markup.Fault)
  deriving DecidableEq, Repr

def Breakdown.message : Breakdown → String
  | file e => e.message
  | unusable e => e.message
  | oversized e => e.message
  | markup e => e.message

/-- The exit code of a command and what it said on both channels; a message ends its line. -/
structure Outcome where
  exitCode : Nat := 0
  output : List String := []
  errors : List String := []
  breakdown : Option Breakdown := none
  deriving DecidableEq, Repr

namespace Outcome

/-- Messages on lines of their own; a line feed alone ends a line. -/
def joined (messages : List String) : String :=
  Text.replaceAll "\r\n" "\n" (String.join (messages.map (· ++ "\n")))

/-- The text on the output channel. -/
def outputText (o : Outcome) : String := joined o.output

/-- The text on the error channel. -/
def errorText (o : Outcome) : String := joined o.errors

/-- The exit code of a command that did not do all it was asked. -/
def failureCode : Nat := 1

/-- The exit code of arguments that make no request. -/
def usageCode : Nat := 2

def codeOf (hasFailed : Bool) : Nat := if hasFailed then failureCode else 0

/-- The outcome of a command that broke down. -/
def broken (b : Breakdown) : Outcome := { exitCode := failureCode, breakdown := some b }

end Outcome
end Screenwright.CommandLine

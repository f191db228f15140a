import TestScribe.CommandLine.Arguments
import TestScribe.Path.Language
import TestScribe.Session.Generate
/-!
# Running the command line

A run ends with a report: an exit code, what is printed, and what is said of
problems.
-/

namespace TestScribe.CommandLine

open TestScribe.Backend TestScribe.Configuration TestScribe.Session

/-- How a run ends. -/
structure Report where
  exitCode : Nat
  output : String
  /-- What is said of problems. -/
  problems : String
  deriving DecidableEq

/-- A run that succeeds. -/
def Report.success (output problems : String) : Report :=
  ⟨0, output, problems⟩

/-- A run that fails. -/
def Report.failure (problems : String) : Report :=
  ⟨1, "", problems⟩

/-- What is said when there is no function around the line. -/
def notInFunctionMessage : String :=
  "No function found at the cursor. Place the cursor inside a function\n"

/-- What is said when a skeleton takes the place of the backend's tests. -/
def templateMessage : String :=
  "Backend unavailable, wrote a basic test template instead\n"

/-- What is printed for the version. -/
def versionText : String :=
  "guardian 0.2.0\n"

/-- What is said when the arguments are not well formed. -/
def usageText : String :=
  "usage: guardian [--config FILE] locate --file FILE --line LINE [--language TAG]\n"
    ++ "       guardian [--config FILE] generate --file FILE [--line LINE] [--language TAG]\n"

variable {m : Type → Type} [Monad m]

/-- The report on the tests that were asked for. -/
def reportOn : Outcome → Report
  | .written path .backend => .success (path ++ "\n") ""
  | .written path .template => .success (path ++ "\n") templateMessage
  | .notInFunction => .failure notInFunctionMessage

/-- Carry out a command. -/
def execute (host : Host m) (environment : ProcessEnvironment) (config : Option String) :
    Command → Step m Report
  | .locate file line language => do
    match ← locateInFile host file (line - 1) (Path.languageFor file language) with
    | some record => return .success (record.toJson.pretty ++ "\n") ""
    | none => return .failure notInFunctionMessage
  | .generate file line language => do
    let settings ← resolveSettings host config environment
    let outcome ←
      generateTests host settings file (line.map (· - 1)) (Path.languageFor file language)
    return reportOn outcome

/-- Run the command line with these arguments. -/
def run (host : Host m) (environment : ProcessEnvironment) (arguments : List String) :
    m Report := do
  match parseArguments? arguments with
  | none => return ⟨2, "", usageText⟩
  | some .version => return .success versionText ""
  | some (.command config command) =>
    match ← (execute host environment config command).run with
    | .ok report => return report
    | .error fault => return .failure ("guardian: " ++ fault.message ++ "\n")

end TestScribe.CommandLine

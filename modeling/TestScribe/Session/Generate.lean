import TestScribe.Backend.Client
import TestScribe.Configuration.SettingsToml
import TestScribe.Locate.Registry
import TestScribe.Path.TestFile
import TestScribe.Session.Host
/-!
# Locating functions in files and generating their tests

Tests are written only after everything before has succeeded, so a session that
fails, or finds no function, leaves all files as they are.
-/

namespace TestScribe.Session

open TestScribe.Backend TestScribe.Configuration TestScribe.Locate

variable {m : Type → Type} [Monad m]

/-- The settings in a file, which have to be free of problems. -/
def loadSettings (host : Host m) (path : String) : Step m Settings := do
  match Settings.ofToml? (← readText host path) with
  | none => throw .malformedSettings
  | some settings =>
    match settings.problem? with
    | some problem => throw (.settings problem)
    | none => return settings

/-- The settings of a session: those in the file, if one is named, or the standard
ones, with the environment's texts in place of their own. -/
def resolveSettings (host : Host m) (path : Option String)
    (environment : ProcessEnvironment) : Step m Settings := do
  let settings ←
    match path with
    | some path => loadSettings host path
    | none => pure Settings.standard
  let settings := settings.overriddenBy environment.texts
  match settings.problem? with
  | some problem => throw (.settings problem)
  | none => return settings

/-- The function around a line of a file, if there is one. -/
def locateInFile (host : Host m) (path : String) (line : Nat) (language : String) :
    Step m (Option FunctionRecord) := do
  return extract (← readText host path) line language

/-- What comes of asking for tests. -/
inductive Outcome where
  /-- Tests were written to a file. -/
  | written (path : String) (origin : Origin)
  /-- There is no function around the line. -/
  | notInFunction
  deriving DecidableEq

/-- The tests for a whole file. -/
def testsForFile (host : Host m) (client : Client) (content path language : String) :
    Step m GeneratedTests := do
  let reply ← host.exchange (client.fileRequest content language (some path))
  let testCode ← client.fileTests reply
  return ⟨testCode, .backend⟩

/-- The tests for one function. -/
def testsForFunction (host : Host m) (client : Client) (record : FunctionRecord)
    (path : String) : Step m GeneratedTests := do
  let reply ← host.exchange (client.functionRequest record path none)
  client.functionTests record path reply

/-- Write the tests of a source file to its test file. -/
def writeTests (host : Host m) (settings : Settings) (path language : String)
    (tests : GeneratedTests) : Step m Outcome := do
  let testPath := Path.testFilePath path language settings.testDirectory
  failIf (← host.write testPath tests.testCode)
  return .written testPath tests.origin

/-- Generate tests for a file, or for the function around a line of it, and write
them to the test file. -/
def generateTests (host : Host m) (settings : Settings) (path : String)
    (line : Option Nat) (language : String) : Step m Outcome := do
  let content ← readText host path
  let client ← Client.forSettings settings
  match line with
  | none =>
    writeTests host settings path language (← testsForFile host client content path language)
  | some line =>
    match extract content line language with
    | none => return .notInFunction
    | some record =>
      writeTests host settings path language (← testsForFunction host client record path)

end TestScribe.Session

import TestScribe.Text.Utf8
import TestScribe.Text.Whitespace
/-!
# Settings

What the test generator has to know besides the source file: where the backend
is, where tests are written, how long to wait, and whether a skeleton may stand
in for a backend that cannot be reached.  Two of the settings can be given by
variables of the environment, whose values need not be text.
-/

namespace TestScribe.Configuration

open TestScribe.Text

/-- The settings of a run. -/
structure Settings where
  backendUrl : String
  /-- Directory for tests, taken from the directory of the source file. -/
  testDirectory : String
  /-- Seconds to wait for the tests of a whole file. -/
  fileTimeoutSeconds : Nat
  /-- Seconds to wait for the tests of one function. -/
  functionTimeoutSeconds : Nat
  /-- May a skeleton stand in when the backend cannot be connected to? -/
  templateFallback : Bool
  deriving DecidableEq

/-- The settings that hold when nothing else is said. -/
def Settings.standard : Settings where
  backendUrl := "http://localhost:8080"
  testDirectory := "__tests__"
  fileTimeoutSeconds := 60
  functionTimeoutSeconds := 30
  templateFallback := true

/-- Why settings cannot be used. -/
inductive SettingsProblem where
  | unknownScheme (url : String)
  | blankTestDirectory
  | zeroTimeout
  deriving DecidableEq

/-- The problem in words. -/
def SettingsProblem.message : SettingsProblem → String
  | .unknownScheme url =>
    "backendUrl must start with http:// or https://, got '" ++ url ++ "'"
  | .blankTestDirectory => "testDirectory must not be empty"
  | .zeroTimeout => "timeouts must be at least one second"

/-- Does the URL begin with a scheme that the backend can be reached by? -/
def hasKnownScheme (url : String) : Bool :=
  "http://".toList.isPrefixOf url.toList || "https://".toList.isPrefixOf url.toList

/-- The first problem of the settings: of the URL, then of the test directory, then
of the timeouts. -/
def Settings.problem? (settings : Settings) : Option SettingsProblem :=
  if !hasKnownScheme settings.backendUrl then
    some (.unknownScheme settings.backendUrl)
  else if isBlank settings.testDirectory.toList then
    some .blankTestDirectory
  else if settings.fileTimeoutSeconds = 0 ∨ settings.functionTimeoutSeconds = 0 then
    some .zeroTimeout
  else
    none

/-- The text without the slashes at its end. -/
def withoutTrailingSlashes (text : String) : String :=
  String.ofList (text.toList.reverse.dropWhile (· == '/')).reverse

/-- The backend's URL without the slashes at its end. -/
def Settings.baseUrl (settings : Settings) : String :=
  withoutTrailingSlashes settings.backendUrl

/-- The URL that test generation is asked of. -/
def Settings.generateTestsUrl (settings : Settings) : String :=
  settings.baseUrl ++ "/api/generate-tests"

/-- The URL that tells whether the backend is up. -/
def Settings.healthUrl (settings : Settings) : String :=
  settings.baseUrl ++ "/"

/-- The environment variable that names the backend's URL. -/
def backendUrlVariable : String := "GUARDIAN_BACKEND_URL"

/-- The environment variable that names the test directory. -/
def testDirectoryVariable : String := "GUARDIAN_TEST_DIRECTORY"

/-- The texts that variables stand for, where they stand for one. -/
abbrev Environment := String → Option String

/-- The value of a variable, unless it is blank. -/
def nonBlankValue? (environment : Environment) (name : String) : Option String :=
  (environment name).filter fun value => !isBlank value.toList

/-- The environment of a process: the values of the variables that are set.  They are
bytes, and need not be text. -/
structure ProcessEnvironment where
  value? : String → Option ByteArray

/-- The texts of the variables that have one.  A variable with any other value is passed
over, as if it were not set. -/
def ProcessEnvironment.texts (environment : ProcessEnvironment) : Environment := fun name =>
  (environment.value? name).bind decodeStrict?

/-- The environment in which the variables hold these texts. -/
def ProcessEnvironment.ofTexts (texts : Environment) : ProcessEnvironment where
  value? name := (texts name).map String.toUTF8

instance : Coe Environment ProcessEnvironment where
  coe := .ofTexts

/-- The settings with the environment's values in place of their own. -/
def Settings.overriddenBy (settings : Settings) (environment : Environment) : Settings :=
  { settings with
    backendUrl := (nonBlankValue? environment backendUrlVariable).getD settings.backendUrl
    testDirectory :=
      (nonBlankValue? environment testDirectoryVariable).getD settings.testDirectory }

end TestScribe.Configuration

import TestScribe.Configuration.Settings
import TestScribe.Workspace.Access
/-!
# What can go wrong in a run

Locating a function never fails: that there is none is an answer.  Everything
around it can fail, for one of these causes.
-/

namespace TestScribe

open TestScribe.Configuration TestScribe.Workspace

/-- Why a run fails. -/
inductive Fault where
  /-- The settings cannot be used. -/
  | settings (problem : SettingsProblem)
  /-- The settings file is no TOML document, or gives a setting of the wrong kind. -/
  | malformedSettings
  /-- The backend did not answer within so many milliseconds. -/
  | timedOut (milliseconds : Nat)
  /-- No connection to the backend at its base URL comes about. -/
  | unreachable (baseUrl : String)
  /-- The backend answered with a status that is no success. -/
  | refused (status : Nat) (explanation : String)
  /-- The backend's answer holds no test code. -/
  | emptyAnswer
  /-- The request could not be sent or its answer not be received. -/
  | transport
  /-- A file or directory cannot be used. -/
  | access (problem : AccessProblem)
  /-- A JSON text is malformed, or is not of the form that was asked for. -/
  | malformedJson
  deriving DecidableEq

/-- The fault in words.  Where the cause is a malformed text or a broken
connection, the words only name the kind of fault. -/
def Fault.message : Fault → String
  | .settings problem => "Invalid configuration: " ++ problem.message
  | .malformedSettings => "Failed to parse config file"
  | .timedOut milliseconds =>
    "Backend request timed out after " ++ (milliseconds / 1000).repr ++ "s"
  | .unreachable baseUrl =>
    "Cannot connect to the backend at " ++ baseUrl
      ++ ". Make sure the backend service is running"
  | .refused status explanation =>
    "Backend returned " ++ status.repr ++ ": " ++ explanation
  | .emptyAnswer => "Backend returned no test code"
  | .transport => "HTTP error"
  | .access problem => "IO error: " ++ problem.message
  | .malformedJson => "JSON error"

end TestScribe

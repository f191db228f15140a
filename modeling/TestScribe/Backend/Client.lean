import TestScribe.Backend.Exchange
import TestScribe.Fault
import TestScribe.Json.Printer
import TestScribe.Json.Reader
import TestScribe.Locate.FunctionRecordJson
import TestScribe.Skeleton.Template
import TestScribe.Text.Utf8
/-!
# The client of the backend

The client asks the backend for tests of a whole file or of one function, and
reads what comes of it.  When no connection to the backend comes about, a skeleton
may take the place of the tests for a function.
-/

namespace TestScribe.Backend

open TestScribe.Configuration TestScribe.Json TestScribe.Locate TestScribe.Text

/-- Settings that can be used, with the times to wait. -/
structure Client where
  settings : Settings
  /-- Milliseconds to wait for the tests of a whole file. -/
  fileTimeout : Nat
  /-- Milliseconds to wait for the tests of one function. -/
  functionTimeout : Nat

/-- The client for settings, unless they cannot be used.  Building the HTTP client, which
reads no setting, is taken to succeed. -/
def Client.forSettings (settings : Settings) : Except Fault Client :=
  match settings.problem? with
  | some problem => .error (.settings problem)
  | none => .ok
      { settings := settings
        fileTimeout := 1000 * settings.fileTimeoutSeconds
        functionTimeout := 1000 * settings.functionTimeoutSeconds }

/-- The client with one time to wait for all requests. -/
def Client.withTimeout (client : Client) (milliseconds : Nat) : Client :=
  { client with fileTimeout := milliseconds, functionTimeout := milliseconds }

/-- A member with a text, if there is one. -/
def optionalMember (name : String) (text : Option String) : List (String × Value) :=
  match text with
  | some text => [(name, .ofString text)]
  | none => []

/-- What the backend is told to test a whole file. -/
def filePayload (content language : String) (filePath : Option String) : Value :=
  .ofMembers <|
    [("fileContent", .ofString content), ("language", .ofString language)]
    ++ optionalMember "filePath" filePath

/-- What the backend is told about a function. -/
def functionMember (record : FunctionRecord) : Value :=
  .ofMembers <|
    [("name", .ofString record.name),
      ("code", .ofString record.code),
      ("language", .ofString record.language),
      ("parameters", .ofStrings record.parameters)]
    ++ optionalMember "returnType" record.returnType

/-- What the backend is told to test one function. -/
def functionPayload (record : FunctionRecord) (filePath : String)
    (projectStructure : Option String) : Value :=
  .ofMembers
    [("function", functionMember record),
      ("context", .ofMembers <|
        ("filePath", .ofString filePath)
          :: optionalMember "projectStructure" projectStructure)]

/-- The request that asks for tests. -/
def Client.generateRequest (client : Client) (timeout : Nat) (payload : Value) : Request where
  method := "POST"
  url := client.settings.generateTestsUrl
  body := some payload.compact
  timeout := timeout

/-- The request that asks whether the backend is up. -/
def Client.healthRequest (client : Client) : Request where
  method := "GET"
  url := client.settings.healthUrl
  body := none
  timeout := client.functionTimeout

/-- The field of a record with only one field. -/
def onlyField? (name : String) (value : Value) : Option (Option Value) :=
  match value.fields? [name] with
  | some [field] => some field
  | _ => none

/-- The test code in an answer of success: a text, or `none` if it is missing or
null. -/
def testCodeOf? (value : Value) : Option (Option String) := do
  match ← onlyField? "testCode" value with
  | none => return none
  | some .null => return none
  | some code => code.string?.map some

/-- The explanation in an answer of failure. -/
def explanationOf? (value : Value) : Option String := do
  let field ← onlyField? "error" value
  field.bind Value.string?

/-- The test code that an answer gives, or why it gives none.  A status that is no
success comes with an explanation: the one in the body if there is one, otherwise
the whole body.  Test code has to hold something other than white space. -/
def readAnswer (status : Nat) (body : ByteArray) : Except Fault String :=
  if isSuccess status then
    match (parseBytes? body).bind testCodeOf? with
    | none => .error .malformedJson
    | some none => .error .emptyAnswer
    | some (some code) =>
      if isBlank code.toList then .error .emptyAnswer else .ok code
  else
    let explanation := ((parseBytes? body).bind explanationOf?).getD (decodeLenient body)
    .error (.refused status explanation)

/-- The fault that an error of the HTTP library is reported as.  The time comes first:
it has run out also when it did so while connecting. -/
def Client.classify (client : Client) (timeout : Nat) (error : TransportError) : Fault :=
  if error.isTimeout then .timedOut timeout
  else if error.isConnect then .unreachable client.settings.baseUrl
  else .transport

/-- The test code that comes of a request for tests, or why there is none. -/
def Client.testsFrom (client : Client) (timeout : Nat) : Reply → Except Fault String
  | .failed error => .error (client.classify timeout error)
  | .answer _ (.failed error) => .error (client.classify timeout error)
  | .answer status (.complete bytes) => readAnswer status bytes

/-- Does the backend answer a request for its health with success?  The body of the
answer is not waited for. -/
def Client.healthFrom (client : Client) : Reply → Except Fault Bool
  | .failed error => .error (client.classify client.functionTimeout error)
  | .answer status _ => .ok (isSuccess status)

/-- Where test code comes from. -/
inductive Origin where
  | backend
  /-- From a skeleton that stands in for the backend. -/
  | template
  deriving DecidableEq

/-- The name of an origin. -/
def Origin.name : Origin → String
  | .backend => "backend"
  | .template => "template"

/-- Test code and where it comes from. -/
structure GeneratedTests where
  testCode : String
  /-- Where it comes from. -/
  origin : Origin
  deriving DecidableEq

/-- The request for tests of a whole file. -/
def Client.fileRequest (client : Client) (content language : String)
    (filePath : Option String) : Request :=
  client.generateRequest client.fileTimeout (filePayload content language filePath)

/-- The tests for a whole file that come of a request. -/
def Client.fileTests (client : Client) (reply : Reply) : Except Fault String :=
  client.testsFrom client.fileTimeout reply

/-- The request for tests of one function. -/
def Client.functionRequest (client : Client) (record : FunctionRecord) (filePath : String)
    (projectStructure : Option String) : Request :=
  client.generateRequest client.functionTimeout
    (functionPayload record filePath projectStructure)

/-- The tests for one function that come of a request.  When the backend is reported as
unreachable and the settings allow it, a skeleton takes their place. -/
def Client.functionTests (client : Client) (record : FunctionRecord) (filePath : String)
    (reply : Reply) : Except Fault GeneratedTests :=
  match client.testsFrom client.functionTimeout reply with
  | .ok testCode => .ok ⟨testCode, .backend⟩
  | .error (.unreachable baseUrl) =>
    if client.settings.templateFallback then
      .ok ⟨Skeleton.basicTemplate record (some filePath), .template⟩
    else
      .error (.unreachable baseUrl)
  | .error fault => .error fault

end TestScribe.Backend

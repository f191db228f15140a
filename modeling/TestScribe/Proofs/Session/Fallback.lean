import TestScribe.Proofs.Backend.Client
import TestScribe.Proofs.Configuration.Settings
import TestScribe.Proofs.Session.Generate
import TestScribe.Proofs.Skeleton.Template

/-!
# When a skeleton stands in for the backend

A skeleton is written in one case only: tests for one function were asked for,
the backend could not be connected to, and the settings allow it.  A refused
connection is such a case, and a host that cannot be found is another.  Whatever
else comes of a request is passed on as it is, and without a line no run reports
a skeleton.
-/

namespace TestScribe.Session

open TestScribe.Backend
open TestScribe.Configuration
open TestScribe.Json
open TestScribe.Locate
open TestScribe.Skeleton
open TestScribe.Workspace

/-- A client keeps the settings that it was made for. -/
theorem settings_eq_of_forSettings
    {settings : Settings}
    {client : Client}
    (usable : Client.forSettings settings = .ok client) :
    client.settings = settings := by
  rw [Client.forSettings] at usable
  split at usable
  · cases usable
  · cases usable
    rfl

/-- Without a line the tests that are written come from the backend. -/
theorem Asks.origin_eq_backend
    {settings : Settings}
    {path language code : String}
    {world : World}
    {request : Request}
    {tests : Reply → Except Fault GeneratedTests}
    {reply : Reply}
    {origin : Origin}
    (asks : Asks settings path none language world request tests)
    (made : tests reply = .ok ⟨code, origin⟩) :
    origin = .backend := by
  cases asks with
  | @file _ client _ _ _ =>
      replace made :
          (client.fileTests reply).map (GeneratedTests.mk · .backend) =
            .ok ⟨code, origin⟩ :=
        made
      cases sent : client.fileTests reply with
      | ok text =>
          rw [sent] at made
          cases made
          rfl
      | error fault =>
          rw [sent] at made
          cases made
  | function _ _ isLine => cases isLine

theorem generateTests_without_line_ne_template
    (settings : Settings)
    (path language testPath : String)
    (world : World) :
    (simulate
        (generateTests simulatedHost settings path none language)
        world).1 ≠
      .ok (.written testPath .template) := by
  intro reported
  have ends := generateTests_ends settings path none language world
  generalize
    simulate (generateTests simulatedHost settings path none language)
      world = run at ends reported
  cases ends with
  | written asks generated =>
      rw [asks.origin_eq_backend generated] at reported
      cases reported
  | unreadable => cases reported
  | unusable => cases reported
  | notInFunction => cases reported
  | noTests => cases reported
  | unwritten => cases reported

/-- Whatever keeps a connection from coming about, the request fails to connect. -/
theorem failsToConnect_of_connectFailure
    (failure : ConnectFailure) :
    (Reply.failed failure.error).FailsToConnect := by
  cases failure with
  | refused => exact ⟨_, rfl, rfl, rfl⟩
  | unknownHost => exact ⟨_, rfl, rfl, rfl⟩

/--
Valid settings make a client.  For one function the client hands out a skeleton
exactly when the error that ends the exchange is one of connecting and none of
time, and the settings allow it; every failure to connect is of that kind.  The
skeleton is that of the function, and its call passes one placeholder for each
parameter.  If the settings do not allow it, the client says that the base URL
cannot be reached, and whatever else comes of the request is passed on: once the
time has run out, that it has, whether or not that was while connecting.  Test
code for a whole file is always what the backend sent, so that generating tests
without a line never reports a skeleton.
-/
theorem skeleton_iff_unreachable
    (client : Client)
    (network : Request → Reply)
    (record : FunctionRecord)
    (filePath : String)
    (projectStructure : Option String) :
    (∀ settings : Settings,
      settings.problem? = none →
        ∃ usable,
          Client.forSettings settings = .ok usable ∧
            usable.settings = settings) ∧
      (∀ failure : ConnectFailure,
        (Reply.failed failure.error).FailsToConnect) ∧
      (let reply :=
          network
            (client.functionRequest record filePath projectStructure)
        let made := client.functionTests record filePath reply
        ((∃ code, made = .ok ⟨code, .template⟩) ↔
          reply.FailsToConnect ∧
            client.settings.templateFallback = true) ∧
          (reply.FailsToConnect →
            client.settings.templateFallback = true →
              made =
                .ok ⟨basicTemplate record (some filePath), .template⟩) ∧
          (reply.FailsToConnect →
            client.settings.templateFallback = false →
              made = .error (.unreachable client.settings.baseUrl)) ∧
          (¬ reply.FailsToConnect →
            made =
              (client.testsFrom client.functionTimeout reply).map
                (⟨·, .backend⟩)) ∧
          ∀ error,
            reply.error? = some error →
              error.isTimeout = true →
                made = .error (.timedOut client.functionTimeout)) ∧
      IsBaseOf client.settings.baseUrl client.settings.backendUrl ∧
      Holds (basicTemplate record (some filePath))
        (assignedCall record.name record.parameters.length) ∧
      (∀ content language path code,
        client.fileTests
            (network (client.fileRequest content language path)) =
            .ok code →
          ∃ status bytes,
            network (client.fileRequest content language path) =
                .answer status (.complete bytes) ∧
              isSuccess status = true ∧
                (parseBytes? bytes).bind testCodeOf? =
                  some (some code)) ∧
      ∀ settings path language testPath world,
        (simulate
            (generateTests simulatedHost settings path none language)
            world).1 ≠
          .ok (.written testPath .template) := by
  refine
    ⟨?usable, failsToConnect_of_connectFailure,
      ⟨?exactly, ?allowed, ?refused, ?passedOn, ?late⟩, ?base, ?call,
      ?file, ?run⟩
  case usable =>
    intro settings valid
    rcases exists_forSettings_eq_ok_iff.mpr valid with ⟨usable, made⟩
    exact ⟨usable, made, settings_eq_of_forSettings made⟩
  case exactly => exact Client.functionTests_eq_template_iff
  case allowed =>
    intro unreachable allowed
    rw [Client.functionTests_of_failsToConnect unreachable,
      if_pos allowed]
  case refused =>
    intro unreachable refused
    rw [Client.functionTests_of_failsToConnect unreachable, refused]
    rfl
  case passedOn =>
    intro reached
    exact
      client.functionTests_of_not_failsToConnect reached record filePath
  case late =>
    intro error ended late
    exact
      client.functionTests_of_isTimeout ended late record filePath
  case base => exact client.settings.isBaseOf_baseUrl
  case call =>
    exact basicTemplate_holds_assignedCall record (some filePath)
  case file =>
    intro content language path code made
    exact Client.exists_answer_of_testsFrom made
  case run =>
    intro settings path language testPath world
    exact
      generateTests_without_line_ne_template settings path language
        testPath world

/-- With nothing listening, a function of two parameters gets a skeleton with two
placeholders, and an error names the URL without its slashes if skeletons are not
allowed; a time-out while connecting stays one. -/
theorem skeleton_iff_unreachable_two_parameters :
    let record : FunctionRecord :=
      { name := "add"
        code := "def add(a, b):\n    return a + b"
        startLine := 0
        endLine := 1
        language := "python"
        parameters := ["a", "b"]
        returnType := none }
    let settings : Settings :=
      { Settings.standard with backendUrl := "http://localhost:1//" }
    let client : Client := ⟨settings, 60000, 30000⟩
    let strict : Client :=
      ⟨{ settings with templateFallback := false }, 60000, 30000⟩
    settings.problem? = none ∧
      client.functionTests record "add.py" .unreachable =
        .ok ⟨basicTemplate record (some "add.py"), .template⟩ ∧
      Holds (basicTemplate record (some "add.py"))
        "result = add(arg, arg)" ∧
      strict.functionTests record "add.py" .unreachable =
        .error (.unreachable "http://localhost:1") ∧
      client.functionTests record "add.py" (.failed ⟨true, true⟩) =
        .error (.timedOut 30000) := by
  intro record settings client strict
  have lenient :=
    skeleton_iff_unreachable client (fun _ => .unreachable) record
      "add.py" none
  have refused :=
    skeleton_iff_unreachable strict (fun _ => .unreachable) record
      "add.py" none
  have late :=
    skeleton_iff_unreachable client (fun _ => .failed ⟨true, true⟩)
      record "add.py" none
  have unreachable : Reply.unreachable.FailsToConnect :=
    lenient.2.1 .refused
  have call :
      assignedCall record.name record.parameters.length =
        "result = add(arg, arg)" := by
    decide
  have base : strict.settings.baseUrl = "http://localhost:1" := by
    decide
  refine
    ⟨by decide, lenient.2.2.1.2.1 unreachable rfl, ?_,
      base ▸ refused.2.2.1.2.2.1 unreachable rfl,
      late.2.2.1.2.2.2.2 _ rfl rfl⟩
  rw [← call]
  exact lenient.2.2.2.2.1

/-- A skeleton also comes where no connection was refused: there is none to refuse
one when the name of the host stands for no address. -/
theorem skeleton_for_unknown_host :
    let record : FunctionRecord :=
      { name := "add"
        code := "def add(a, b):\n    return a + b"
        startLine := 0
        endLine := 1
        language := "python"
        parameters := ["a", "b"]
        returnType := none }
    let client : Client := ⟨Settings.standard, 60000, 30000⟩
    let failure : ConnectFailure := .unknownHost
    ¬ ((∃ code,
          client.functionTests record "add.py" (.failed failure.error) =
            .ok ⟨code, .template⟩) ↔
        failure = .refused ∧
          client.settings.templateFallback = true) := by
  intro record client failure onlyRefused
  have made :=
    client.functionTests_of_failsToConnect
      (failsToConnect_of_connectFailure failure) record "add.py"
  have refusal : ConnectFailure.unknownHost = .refused :=
    (onlyRefused.mp ⟨_, made⟩).1
  cases refusal

end TestScribe.Session

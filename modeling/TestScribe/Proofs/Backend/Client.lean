import TestScribe.Backend.Client

/-!
# What the client makes of a reply

An error that ends an exchange is reported by what the HTTP library says of it,
and the time is asked about first.  So the client says that the backend is
unreachable exactly when the error came up while connecting and the time had not
run out; no complete answer, however odd, is taken for that.  Only then may a
skeleton take the place of the tests for one function, and test code for a whole
file is always what the backend sent.
-/

namespace TestScribe.Backend

open TestScribe.Json
open TestScribe.Locate
open TestScribe.Text

variable
    {client : Client}
    {timeout : Nat}
    {error : TransportError}
    {reply : Reply}
    {record : FunctionRecord}
    {filePath baseUrl code : String}

/-! ## Errors that end an exchange -/

/-- The exchange ends while the host is being connected to, and not because the
time has run out. -/
def Reply.FailsToConnect (reply : Reply) : Prop :=
  ∃ error,
    reply.error? = some error ∧
      error.isConnect = true ∧
        error.isTimeout = false

theorem Client.classify_eq_unreachable_iff :
    client.classify timeout error = .unreachable baseUrl ↔
      (error.isConnect = true ∧ error.isTimeout = false) ∧
        baseUrl = client.settings.baseUrl := by
  rw [classify]
  rcases error with ⟨isTimeout, isConnect⟩
  cases isTimeout with
  | true => simp
  | false =>
      cases isConnect with
      | true => simp [eq_comm]
      | false => simp

/-- An error ends the request for tests, whether it comes before the answer or
inside its body. -/
theorem Client.testsFrom_of_error?
    (failed : reply.error? = some error) :
    client.testsFrom timeout reply =
      .error (client.classify timeout error) := by
  cases reply with
  | failed => cases failed; rfl
  | answer status body =>
      cases body with
      | complete => cases failed
      | failed => cases failed; rfl

theorem Reply.exists_complete_of_error?_eq_none
    (complete : reply.error? = none) :
    ∃ status bytes, reply = .answer status (.complete bytes) := by
  cases reply with
  | failed => cases complete
  | answer status body =>
      cases body with
      | complete bytes => exact ⟨status, bytes, rfl⟩
      | failed => cases complete

/-! ## The plain request -/

/-- An answer is never taken for an unreachable backend. -/
theorem readAnswer_ne_unreachable
    (status : Nat)
    (body : ByteArray)
    (baseUrl : String) :
    readAnswer status body ≠ .error (.unreachable baseUrl) := by
  intro unreachable
  rw [readAnswer] at unreachable
  split at unreachable
  · split at unreachable
    · cases unreachable
    · cases unreachable
    · split at unreachable
      · cases unreachable
      · cases unreachable
  · cases unreachable

/-- The test code of an answer is the text that the backend sent. -/
theorem eq_ok_of_readAnswer
    {status : Nat}
    {body : ByteArray}
    (read : readAnswer status body = .ok code) :
    isSuccess status = true ∧
      (parseBytes? body).bind testCodeOf? = some (some code) ∧
        isBlank code.toList = false := by
  rw [readAnswer] at read
  split at read
  · next success =>
    split at read
    · cases read
    · cases read
    · next sent decoded =>
      split at read
      · cases read
      · next visible =>
        cases read
        exact ⟨success, decoded, Bool.eq_false_iff.mpr visible⟩
  · cases read

/-- The backend counts as unreachable exactly when it could not be connected to. -/
theorem Client.testsFrom_eq_unreachable_iff :
    client.testsFrom timeout reply = .error (.unreachable baseUrl) ↔
      reply.FailsToConnect ∧ baseUrl = client.settings.baseUrl := by
  cases ended : reply.error? with
  | some error =>
      rw [testsFrom_of_error? ended, Except.error.injEq,
        classify_eq_unreachable_iff, Reply.FailsToConnect]
      simp [ended]
  | none =>
      rcases Reply.exists_complete_of_error?_eq_none ended with
        ⟨status, bytes, rfl⟩
      constructor
      · intro failed
        exact absurd failed (readAnswer_ne_unreachable status bytes _)
      · rintro ⟨⟨error, failed, -⟩, -⟩
        cases failed

/-- Test code comes of a successful answer that arrives in full. -/
theorem Client.exists_answer_of_testsFrom
    (made : client.testsFrom timeout reply = .ok code) :
    ∃ status bytes,
      reply = .answer status (.complete bytes) ∧
        isSuccess status = true ∧
          (parseBytes? bytes).bind testCodeOf? = some (some code) := by
  cases ended : reply.error? with
  | some error =>
      rw [testsFrom_of_error? ended] at made
      cases made
  | none =>
      rcases Reply.exists_complete_of_error?_eq_none ended with
        ⟨status, bytes, rfl⟩
      rcases eq_ok_of_readAnswer made with ⟨success, decoded, -⟩
      exact ⟨status, bytes, rfl, success, decoded⟩

/-! ## The request for one function -/

theorem Client.functionTests_of_failsToConnect
    (unreachable : reply.FailsToConnect)
    (record : FunctionRecord)
    (filePath : String) :
    client.functionTests record filePath reply =
      if client.settings.templateFallback then
        .ok ⟨Skeleton.basicTemplate record (some filePath), .template⟩
      else
        .error (.unreachable client.settings.baseUrl) := by
  rw [functionTests,
    testsFrom_eq_unreachable_iff.mpr ⟨unreachable, rfl⟩]

/-- Whatever else comes of the request is passed on. -/
theorem Client.functionTests_of_not_failsToConnect
    (reached : ¬ reply.FailsToConnect)
    (record : FunctionRecord)
    (filePath : String) :
    client.functionTests record filePath reply =
      (client.testsFrom client.functionTimeout reply).map
        (⟨·, .backend⟩) := by
  rw [functionTests]
  split
  · next code made =>
    rw [made]
    rfl
  · next baseUrl failed =>
    exact absurd (testsFrom_eq_unreachable_iff.mp failed).1 reached
  · next fault _ failed =>
    rw [failed]
    rfl

/-- A time-out is reported as one, also if it came up while connecting. -/
theorem Client.functionTests_of_isTimeout
    (ended : reply.error? = some error)
    (late : error.isTimeout = true)
    (record : FunctionRecord)
    (filePath : String) :
    client.functionTests record filePath reply =
      .error (.timedOut client.functionTimeout) := by
  have reached : ¬ reply.FailsToConnect := by
    rintro ⟨other, alsoEnded, -, inTime⟩
    cases ended.symm.trans alsoEnded
    rw [late] at inTime
    cases inTime
  rw [functionTests_of_not_failsToConnect reached,
    testsFrom_of_error? ended, classify, if_pos late]
  rfl

/-- A skeleton is handed out exactly when the backend could not be connected to and
the settings allow it. -/
theorem Client.functionTests_eq_template_iff :
    (∃ code,
      client.functionTests record filePath reply =
        .ok ⟨code, .template⟩) ↔
      reply.FailsToConnect ∧
        client.settings.templateFallback = true := by
  constructor
  · rintro ⟨code, made⟩
    by_cases unreachable : reply.FailsToConnect
    · rw [functionTests_of_failsToConnect unreachable] at made
      split at made
      · next allowed => exact ⟨unreachable, allowed⟩
      · cases made
    · rw [functionTests_of_not_failsToConnect unreachable] at made
      cases plain : client.testsFrom client.functionTimeout reply with
      | ok sent =>
          rw [plain] at made
          cases made
      | error fault =>
          rw [plain] at made
          cases made
  · rintro ⟨unreachable, allowed⟩
    rw [functionTests_of_failsToConnect unreachable, if_pos allowed]
    exact ⟨_, rfl⟩

end TestScribe.Backend

import TestScribe.Proofs.Text.Utf8
import TestScribe.Session.Host

/-!
# Steps in a simulated world

A step of a session is told by its answer and the world after it.  Steps that
follow each other are run one after the other, and a fault ends the run where it
is.  Reading a text leaves the world as it is, and succeeds exactly on a file
that holds the UTF-8 bytes of the text.
-/

namespace TestScribe.Session

open TestScribe.Backend
open TestScribe.Text
open TestScribe.Workspace

variable
    {α β : Type}
    {path : String}

/-! ## One step after another -/

/-- A run goes on where the step before it ended, unless that failed. -/
theorem simulate_bind
    (step : Step (StateM World) α)
    (next : α → Step (StateM World) β)
    (world : World) :
    simulate (step >>= next) world =
      match simulate step world with
      | (.ok value, after) => simulate (next value) after
      | (.error fault, after) => (.error fault, after) := by
  simp only [simulate, ExceptT.run_bind, StateT.run_bind]
  rcases step.run.run world with ⟨_ | _, _⟩
  · rfl
  · rfl

theorem simulate_bind_of_ok
    {step : Step (StateM World) α}
    {next : α → Step (StateM World) β}
    {world after : World}
    {value : α}
    (succeeds : simulate step world = (.ok value, after)) :
    simulate (step >>= next) world = simulate (next value) after := by
  rw [simulate_bind, succeeds]

theorem simulate_bind_of_error
    {step : Step (StateM World) α}
    {next : α → Step (StateM World) β}
    {world after : World}
    {fault : Fault}
    (fails : simulate step world = (.error fault, after)) :
    simulate (step >>= next) world = (.error fault, after) := by
  rw [simulate_bind, fails]

theorem simulate_pure
    (value : α)
    (world : World) :
    simulate (pure value) world = (.ok value, world) :=
  rfl

/-- A step that only computes leaves the world as it is. -/
theorem simulate_except
    (result : Except Fault α)
    (world : World) :
    simulate (liftM result) world = (result, world) :=
  rfl

/-! ## What the host does -/

/-- The world after one more request was sent. -/
def World.afterSending
    (world : World)
    (request : Request) :
    World :=
  { world with sent := world.sent ++ [request] }

theorem simulate_exchange
    (request : Request)
    (world : World) :
    simulate (liftM (simulatedHost.exchange request)) world =
      (.ok (world.network request), world.afterSending request) :=
  rfl

theorem simulate_read
    (path : String)
    (world : World) :
    simulate (liftM (simulatedHost.read path)) world =
      (.ok (world.tree.read path), world) :=
  rfl

theorem simulate_write
    (path contents : String)
    (world : World) :
    simulate (liftM (simulatedHost.write path contents)) world =
      (.ok (world.tree.write path contents).2,
        { world with tree := (world.tree.write path contents).1 }) :=
  rfl

/-! ## Reading a text -/

theorem simulate_readText_of_text
    {world : World}
    {content : String}
    (readable : world.tree.read path = .ok content.toUTF8) :
    simulate (readText simulatedHost path) world =
      (.ok content, world) := by
  have decoded : decodeStrict? content.toUTF8 = some content :=
    decodeStrict?_eq_some_iff.mpr rfl
  rw [readText, simulate_bind_of_ok (simulate_read path world), readable]
  simp only [decoded]
  exact simulate_pure content world

theorem simulate_readText_of_problem
    {world : World}
    {problem : AccessProblem}
    (unreadable : world.tree.read path = .error problem) :
    simulate (readText simulatedHost path) world =
      (.error (.access problem), world) := by
  rw [readText, simulate_bind_of_ok (simulate_read path world),
    unreadable]
  rfl

/-- A file that does not hold the UTF-8 bytes of a text is no text. -/
theorem simulate_readText_of_bytes
    {world : World}
    {bytes : ByteArray}
    (readable : world.tree.read path = .ok bytes)
    (noText : ∀ content : String, bytes ≠ content.toUTF8) :
    simulate (readText simulatedHost path) world =
      (.error (.access .invalidUtf8), world) := by
  have undecoded : decodeStrict? bytes = none := by
    rw [Option.eq_none_iff_forall_ne_some]
    intro content decoded
    exact noText content (decodeStrict?_eq_some_iff.mp decoded)
  rw [readText, simulate_bind_of_ok (simulate_read path world), readable]
  simp only [undecoded]
  rfl

/-- Where no text can be read, the run fails and nothing happens. -/
theorem simulate_readText_of_no_text
    {world : World}
    (unreadable :
      ∀ content : String, world.tree.read path ≠ .ok content.toUTF8) :
    ∃ fault,
      simulate (readText simulatedHost path) world =
        (.error fault, world) := by
  cases found : world.tree.read path with
  | error problem => exact ⟨_, simulate_readText_of_problem found⟩
  | ok bytes =>
      refine ⟨_, simulate_readText_of_bytes found ?_⟩
      rintro content rfl
      exact unreadable content found

end TestScribe.Session

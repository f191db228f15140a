import TestScribe.Backend.Exchange
import TestScribe.Fault
import TestScribe.Text.Utf8
import TestScribe.Workspace.Access
/-!
# The host of a session

A session reads files, writes files and asks the backend; it does so through a
host.  `simulatedHost` keeps the files in a tree, answers requests with a
function, and remembers which requests were sent.
-/

namespace TestScribe.Session

open TestScribe.Backend TestScribe.Text TestScribe.Workspace

/-- What a session can do to the world around it. -/
structure Host (m : Type → Type) where
  /-- Read the bytes of the file at a path. -/
  read : String → m (Except AccessProblem ByteArray)
  /-- Write a text to a path, making the directories above it first; the answer is
  what went wrong, if anything did. -/
  write : String → String → m (Option AccessProblem)
  /-- Send a request and wait for what comes of it. -/
  exchange : Request → m Reply

/-- A step of a session: it may fail. -/
abbrev Step (m : Type → Type) (α : Type) := ExceptT Fault m α

/-- A step that fails if there is a problem with a file. -/
def failIf {m : Type → Type} [Monad m] (problem : Option AccessProblem) : Step m Unit :=
  match problem with
  | some problem => throw (.access problem)
  | none => pure ()

/-- Read the file at a path as text. -/
def readText {m : Type → Type} [Monad m] (host : Host m) (path : String) :
    Step m String := do
  match ← host.read path with
  | .error problem => throw (.access problem)
  | .ok bytes =>
    match decodeStrict? bytes with
    | some text => return text
    | none => throw (.access .invalidUtf8)

/-- A world of files and a backend. -/
structure World where
  tree : FileTree
  /-- What comes of each request. -/
  network : Request → Reply
  /-- The requests that were sent, oldest first. -/
  sent : List Request

/-- The host that acts on a simulated world. -/
def simulatedHost : Host (StateM World) where
  read path := do
    return (← get).tree.read path
  write path contents := do
    let world ← get
    let (tree, problem) := world.tree.write path contents
    set { world with tree := tree }
    return problem
  exchange request := do
    let world ← get
    set { world with sent := world.sent ++ [request] }
    return world.network request

/-- Run a step of a session in a simulated world. -/
def simulate {α : Type} (step : Step (StateM World) α) (world : World) :
    Except Fault α × World :=
  step.run.run world

end TestScribe.Session

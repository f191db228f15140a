import Std.Async.DNS
import Std.Async.TCP
import TestScribe.Backend.Wire
import TestScribe.CommandLine.Run
/-!
# The command line program

The host of the command line program: the files of the machine, and connections
to the backend.
-/

namespace TestScribe.Main

open Std.Async Std.Net
open TestScribe.Backend TestScribe.CommandLine TestScribe.Session TestScribe.Workspace

/-- The problem that an error of the system stands for. -/
def problemOf (failure : IO.Error) : AccessProblem :=
  match failure with
  | .noFileOrDirectory _ _ _ => .notFound
  | .alreadyExists _ _ _ => .alreadyExists
  | .inappropriateType _ code _ => if code == 21 then .isADirectory else .notADirectory
  | other => .other other.toString

/-- Do something with a file, and catch what goes wrong. -/
def attempt {α : Type} (path : String) (action : IO α) : IO (Except AccessProblem α) := do
  match checkPath path.toList with
  | .error problem => return .error problem
  | .ok _ =>
    try
      return .ok (← action)
    catch failure =>
      return .error (problemOf failure)

/-- Write a text to a path, making the directories above it first. -/
def writeText (path contents : String) : IO (Option AccessProblem) := do
  let result ← attempt path do
    match Path.parent? path.toList with
    | some (c :: rest) => IO.FS.createDirAll (String.ofList (c :: rest))
    | _ => pure ()
    IO.FS.writeFile path contents
  match result with
  | .ok _ => return none
  | .error problem => return some problem

/-- The address of a host. -/
def addressOf? (host : String) : IO (Option IPAddr) := do
  match IPv4Addr.ofString host with
  | some address => return some (.v4 address)
  | none => return (← (DNS.getAddrInfo host "").block)[0]?

/-- The address of a socket. -/
def socketAddress (address : IPAddr) (number : Nat) : SocketAddress :=
  match address with
  | .v4 address => .v4 ⟨address, number.toUInt16⟩
  | .v6 address => .v6 ⟨address, number.toUInt16⟩

/-- Receive until the connection is closed, keeping what has arrived in a reference. -/
partial def receiveAll (socket : TCP.Socket.Client) (arrived : IO.Ref ByteArray) : IO Unit := do
  match ← (socket.recv? 65536).block with
  | none => return
  | some bytes =>
    arrived.modify (· ++ bytes)
    receiveAll socket arrived

/-- Wait until a task has ended or the time is up; the answer is whether it ended. -/
partial def waitUntil {α : Type} (task : Task α) (deadline : Nat) : IO Bool := do
  if ← IO.hasFinished task then
    return true
  else if deadline ≤ (← IO.monoMsNow) then
    return false
  else
    IO.sleep 10
    waitUntil task deadline

/-- What comes of connecting to a host: a connection, or why there is none. -/
def connectTo (url : Url) : IO (Except ConnectFailure TCP.Socket.Client) := do
  let address? ← try addressOf? url.host catch _ => pure none
  match address? with
  | none => return .error .unknownHost
  | some address =>
    try
      let socket ← TCP.Socket.Client.mk
      (socket.connect (socketAddress address url.portNumber)).block
      return .ok socket
    catch _ =>
      return .error .refused

/-- A connection to a host, or a reply that stands for there being none. -/
def connect (url : Url) (deadline : Nat) : IO (Except Reply TCP.Socket.Client) := do
  let task ← IO.asTask (connectTo url)
  if ← waitUntil task deadline then
    match task.get with
    | .ok (.ok socket) => return .ok socket
    | .ok (.error failure) => return .error (.failed failure.error)
    | .error _ => return .error .broken
  else
    return .error .late

/-- Send a request and wait for what comes of it.  Connections are not encrypted, so
that no request can be sent to a URL of the other scheme. -/
def exchange (request : Request) : IO Reply := do
  match Url.parse? request.url with
  | none => return .unsendable
  | some url =>
    let deadline := (← IO.monoMsNow) + request.timeout
    if url.scheme != "http" then
      return .unsendable
    match ← connect url deadline with
    | .error reply => return reply
    | .ok socket =>
      let arrived ← IO.mkRef ByteArray.empty
      let task ← IO.asTask do
        (socket.send (request.toBytes url)).block
        receiveAll socket arrived
      if ← waitUntil task deadline then
        return replyOfClosed (← arrived.get)
      else
        return replyOfWaiting (← arrived.get)

/-- The host of the command line program. -/
def machine : Host IO where
  read path := attempt path (IO.FS.readBinFile path)
  write := writeText
  exchange := exchange

end TestScribe.Main

open TestScribe

/-- Run the command line and report on it.  The runtime hands out the values of
variables as texts. -/
def main (arguments : List String) : IO UInt32 := do
  let backendUrl ← IO.getEnv Configuration.backendUrlVariable
  let testDirectory ← IO.getEnv Configuration.testDirectoryVariable
  let environment : Configuration.Environment := fun name =>
    if name == Configuration.backendUrlVariable then backendUrl
    else if name == Configuration.testDirectoryVariable then testDirectory
    else none
  let report ← CommandLine.run Main.machine environment arguments
  IO.print report.output
  IO.eprint report.problems
  return report.exitCode.toUInt32

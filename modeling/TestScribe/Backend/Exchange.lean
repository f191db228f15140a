/-!
# Exchanges with the backend

A request is sent, and something comes of it.  What can come of it is described
from the sender's side.
-/

namespace TestScribe.Backend

/-- A request to the backend. -/
structure Request where
  method : String
  url : String
  /-- The JSON text that is sent along, if any. -/
  body : Option String
  /-- Milliseconds to wait for the answer. -/
  timeout : Nat
  deriving DecidableEq

/-- What the HTTP library says of an error; nothing else of one is looked at. -/
structure TransportError where
  /-- Has the time to wait run out? -/
  isTimeout : Bool
  /-- Has it come up while connecting to the host? -/
  isConnect : Bool
  deriving DecidableEq

/-- Why no connection to a host comes about. -/
inductive ConnectFailure where
  /-- Nothing listens at the address. -/
  | refused
  /-- The name of the host stands for no address. -/
  | unknownHost
  deriving DecidableEq

/-- What the library says when no connection comes about.  Looking up the name of the
host is a part of connecting to it. -/
def ConnectFailure.error : ConnectFailure → TransportError
  | .refused => { isTimeout := false, isConnect := true }
  | .unknownHost => { isTimeout := false, isConnect := true }

/-- What comes of the body of an answer. -/
inductive Body where
  /-- It arrives in full. -/
  | complete (bytes : ByteArray)
  /-- An error ends the exchange before. -/
  | failed (error : TransportError)

/-- The connection ends before the body is complete. -/
def Body.broken : Body :=
  .failed { isTimeout := false, isConnect := false }

/-- The body is not complete in time. -/
def Body.late : Body :=
  .failed { isTimeout := true, isConnect := false }

/-- What comes of a request. -/
inductive Reply where
  /-- No answer begins. -/
  | failed (error : TransportError)
  /-- An answer begins, with this status. -/
  | answer (status : Nat) (body : Body)

/-- No request can be sent to the URL, which may be malformed. -/
def Reply.unsendable : Reply :=
  .failed { isTimeout := false, isConnect := false }

/-- Nothing listens at the URL. -/
def Reply.unreachable : Reply :=
  .failed ConnectFailure.refused.error

/-- The connection ends without an answer, or with something that is none. -/
def Reply.broken : Reply :=
  .failed { isTimeout := false, isConnect := false }

/-- No answer begins in time. -/
def Reply.late : Reply :=
  .failed { isTimeout := true, isConnect := false }

/-- The error that ends an exchange before the answer is complete, if one does. -/
def Reply.error? : Reply → Option TransportError
  | .failed error => some error
  | .answer _ (.failed error) => some error
  | .answer _ (.complete _) => none

/-- Is the status one of success? -/
def isSuccess (status : Nat) : Bool :=
  200 ≤ status && status ≤ 299

/-- Does an answer with this status have no body, whatever follows it? -/
def hasNoBody (status : Nat) : Bool :=
  status == 101 || status == 204 || status == 304

/-- Is the status that of an interim answer, after which another is to come? -/
def isInterim (status : Nat) : Bool :=
  100 ≤ status && status ≤ 199 && status != 101

/-- What comes of a request when a status line with this status arrives and `body`
follows; `noFurther` is what comes of waiting for another answer. -/
def Reply.ofStatus (status : Nat) (body : Body) (noFurther : Reply) : Reply :=
  if status < 100 ∨ 999 < status then .broken
  else if isInterim status then noFurther
  else if hasNoBody status then .answer status (.complete ByteArray.empty)
  else .answer status body

end TestScribe.Backend

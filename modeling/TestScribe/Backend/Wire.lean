import TestScribe.Backend.Exchange
import TestScribe.Backend.Url
/-!
# Exchanges as bytes

A request and its answer as HTTP/1.1 puts them on a connection that is used once.
What has arrived may be cut off; `ending` says what becomes of a body that is
not complete.
-/

namespace TestScribe.Backend

/-- The lines of a text, each ended as HTTP ends lines. -/
def headText (lines : List String) : String :=
  String.join (lines.map (· ++ "\r\n"))

/-- A request as it is sent to the host of its URL. -/
def Request.toBytes (request : Request) (url : Url) : ByteArray :=
  let body := request.body.getD ""
  let contentLines :=
    if request.body.isSome then
      ["Content-Type: application/json", "Content-Length: " ++ body.utf8ByteSize.repr]
    else
      []
  let head := headText <|
    [request.method ++ " " ++ url.target ++ " HTTP/1.1",
      "Host: " ++ url.host ++ ":" ++ url.portNumber.repr,
      "Accept: */*",
      "Connection: close"]
    ++ contentLines ++ [""]
  (head ++ body).toUTF8

/-- The first line and what follows it, if a line is complete. -/
def takeLine? : List UInt8 → Option (List Char × List UInt8)
  | 0x0D :: 0x0A :: rest => some ([], rest)
  | byte :: rest => (takeLine? rest).map fun (line, rest) => (Char.ofNat byte.toNat :: line, rest)
  | [] => none

/-- The lines up to an empty one, and what follows it.  The number of rounds bounds
how many there are. -/
def takeHead? : Nat → List UInt8 → Option (List (List Char) × List UInt8)
  | 0, _ => none
  | rounds + 1, bytes =>
    match takeLine? bytes with
    | none => none
    | some ([], rest) => some ([], rest)
    | some (line, rest) =>
      (takeHead? rounds rest).map fun (lines, rest) => (line :: lines, rest)

/-- The status in a status line. -/
def statusOf? (line : List Char) : Option Nat :=
  match "HTTP/1.".toList.isPrefixOf? line with
  | some (_ :: ' ' :: a :: b :: c :: _) =>
    if [a, b, c].all Char.isDigit then some (Nat.ofDigitChars 10 [a, b, c] 0) else none
  | _ => none

/-- The value of a header line with this name, in lower case and without blanks at
its ends. -/
def headerValue? (name : String) (lines : List (List Char)) : Option String :=
  lines.findSome? fun line =>
    let field := (line.takeWhile (· != ':')).map Char.toLower
    let value := ((line.dropWhile (· != ':')).drop 1).map Char.toLower
    let trimmed := ((value.dropWhile (· == ' ')).reverse.dropWhile (· == ' ')).reverse
    if field == name.toList then some (String.ofList trimmed) else none

/-- A body that is sent in chunks.  The number of rounds bounds how many there
are. -/
def chunkedBody (ending : Body) : Nat → List UInt8 → List UInt8 → Body
  | 0, _, _ => ending
  | rounds + 1, before, bytes =>
    match takeLine? bytes with
    | none => ending
    | some (line, rest) =>
      match Text.hexValue? (line.takeWhile fun c => (Text.hexDigitValue? c).isSome) with
      | none => .broken
      | some 0 => .complete ⟨before.toArray⟩
      | some size =>
        if rest.length < size + 2 then ending
        else chunkedBody ending rounds (before ++ rest.take size) (rest.drop (size + 2))

/-- The body that follows a head, when all that arrived is `bytes`. -/
def bodyAfter (lines : List (List Char)) (ending : Body) (bytes : List UInt8) : Body :=
  if headerValue? "transfer-encoding" lines == some "chunked" then
    chunkedBody ending (bytes.length + 1) [] bytes
  else
    match (headerValue? "content-length" lines).bind String.toNat? with
    | some size =>
      if bytes.length < size then ending else .complete ⟨(bytes.take size).toArray⟩
    | none =>
      -- A body without a length lasts until the connection is closed.
      match ending with
      | .failed ⟨false, _⟩ => .complete ⟨bytes.toArray⟩
      | other => other

/-- What comes of a request when `bytes` is all that arrived.  The number of rounds
bounds how many interim answers there are. -/
def readReply (ending : Body) (noAnswer : Reply) : Nat → List UInt8 → Reply
  | 0, _ => noAnswer
  | rounds + 1, bytes =>
    match takeHead? (bytes.length + 1) bytes with
    | none => noAnswer
    | some ([], _) => .broken
    | some (line :: lines, rest) =>
      match statusOf? line with
      | none => .broken
      | some status =>
        Reply.ofStatus status (bodyAfter lines ending rest)
          (readReply ending noAnswer rounds rest)

/-- What comes of a request when the connection was closed after these bytes. -/
def replyOfClosed (bytes : ByteArray) : Reply :=
  readReply .broken .broken (bytes.size + 1) bytes.data.toList

/-- What comes of a request when only these bytes arrived in time. -/
def replyOfWaiting (bytes : ByteArray) : Reply :=
  readReply .late .late (bytes.size + 1) bytes.data.toList

end TestScribe.Backend

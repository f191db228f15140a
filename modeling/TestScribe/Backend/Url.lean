import TestScribe.Text.Hexadecimal
/-!
# URLs of requests

A request goes to the host that its URL names, and asks there for the target: the
path and the query.  The path is freed of dot segments, and the
characters that may not stand in a target are written as the percent-encoded
bytes of their UTF-8 form.
-/

namespace TestScribe.Backend

open TestScribe.Text

/-- The parts of a URL that a request needs. -/
structure Url where
  scheme : String
  host : String
  /-- The number behind the host, also when the scheme implies it. -/
  portNumber : Nat
  target : String
  deriving DecidableEq

/-- A byte written with a percent sign and two upper-case digits. -/
def percentEncodedByte (byte : UInt8) : List Char :=
  '%' :: (paddedHexDigits 2 byte.toNat).map Char.toUpper

/-- The text with every character that is not plain ASCII or that `isReserved`
names percent-encoded. -/
def percentEncode (isReserved : Char → Bool) (text : List Char) : List Char :=
  text.flatMap fun c =>
    if c.toNat ≤ 0x20 || 0x7F ≤ c.toNat || isReserved c then
      (String.utf8EncodeChar c).flatMap percentEncodedByte
    else
      [c]

/-- Characters of ASCII that are percent-encoded in a path. -/
def isReservedInPath (character : Char) : Bool :=
  ['"', '#', '<', '>', '?', '^', '\x60', '{', '}'].contains character

/-- Characters of ASCII that are percent-encoded in a query. -/
def isReservedInQuery (character : Char) : Bool :=
  ['"', '#', '<', '>', '\''].contains character

/-- Does the character separate segments of a path? -/
def isPathSeparator (character : Char) : Bool :=
  character == '/' || character == '\\'

/-- A segment with its percent-encoded dots written out. -/
def plainDots : List Char → List Char
  | '%' :: '2' :: 'e' :: rest => '.' :: plainDots rest
  | '%' :: '2' :: 'E' :: rest => '.' :: plainDots rest
  | c :: rest => c :: plainDots rest
  | [] => []

/-- The segments of a path without dot segments; `kept` holds the segments before,
nearest first.  A dot segment at the end leaves an empty segment. -/
def withoutDotSegments : List (List Char) → List (List Char) → List (List Char)
  | kept, [] => kept.reverse
  | kept, segment :: segments =>
    let tail := if segments.isEmpty then [[]] else []
    if plainDots segment == ['.', '.'] then
      withoutDotSegments (tail ++ kept.drop 1) segments
    else if plainDots segment == ['.'] then
      withoutDotSegments (tail ++ kept) segments
    else
      withoutDotSegments (segment :: kept) segments

/-- The segments of the text between path separators. -/
def pathSegments (path : List Char) : List (List Char) :=
  path.splitOnP isPathSeparator

/-- The path of a target; it begins with a slash. -/
def targetPath (path : List Char) : List Char :=
  let segments := pathSegments (if (path.head?.any isPathSeparator) then path.drop 1 else path)
  (withoutDotSegments [] segments).flatMap fun segment =>
    '/' :: percentEncode isReservedInPath segment

/-- The query of a target with its question mark, if there is one. -/
def targetQuery : List Char → List Char
  | '?' :: query => '?' :: percentEncode isReservedInQuery query
  | _ => []

/-- May the character stand in the name of a host? -/
def isHostCharacter (character : Char) : Bool :=
  0x20 < character.toNat && character.toNat != 0x7F
    && !(['#', '/', '<', '>', '?', '@', '[', '\\', ']', '^', '|', '%', ':'].contains character)

/-- May the character stand in a host between brackets? -/
def isBracketedHostCharacter (character : Char) : Bool :=
  (hexDigitValue? character).isSome || character == ':' || character == '.'

/-- The host at the front of an authority, and what follows it. -/
def splitHost? (authority : List Char) : Option (List Char × List Char) :=
  match authority with
  | '[' :: inner =>
    match inner.dropWhile isBracketedHostCharacter with
    | ']' :: rest => some ('[' :: inner.takeWhile isBracketedHostCharacter ++ [']'], rest)
    | _ => none
  | _ =>
    let host := authority.takeWhile isHostCharacter
    if host.isEmpty then none else some (host, authority.dropWhile isHostCharacter)

/-- The number behind a host: the standard one unless another is written. -/
def portNumber? (standard : Nat) : List Char → Option Nat
  | [] => some standard
  | ':' :: digits =>
    let number := Nat.ofDigitChars 10 digits 0
    if digits.isEmpty then some standard
    else if digits.all Char.isDigit ∧ number < Nat.pow 2 16 then some number
    else none
  | _ => none

/-- The text without the name of a user in front. -/
def withoutUser (authority : List Char) : List Char :=
  (authority.reverse.takeWhile (· != '@')).reverse

/-- The text without the blanks and control characters at its ends, and without
tabs and line ends. -/
def strippedUrl (text : List Char) : List Char :=
  let isEdge (c : Char) : Bool := c.toNat ≤ 0x20
  let front := text.dropWhile isEdge
  let middle := (front.reverse.dropWhile isEdge).reverse
  middle.filter fun c => c != '\t' && c != '\n' && c != '\r'

/-- The parts of a URL whose scheme and slashes have been read. -/
def readAuthority? (scheme : String) (standardNumber : Nat) (text : List Char) :
    Option Url := do
  let isInside (c : Char) : Bool := !(isPathSeparator c || c == '?' || c == '#')
  let authority := withoutUser (text.takeWhile isInside)
  let rest := (text.dropWhile isInside).takeWhile (· != '#')
  let (host, afterHost) ← splitHost? authority
  let number ← portNumber? standardNumber afterHost
  let target := targetPath (rest.takeWhile (· != '?')) ++ targetQuery (rest.dropWhile (· != '?'))
  return ⟨scheme, String.ofList host, number, String.ofList target⟩

/-- The parts of a URL with one of the two schemes, if it is well formed. -/
def Url.parse? (text : String) : Option Url :=
  let characters := strippedUrl text.toList
  match "http:".toList.isPrefixOf? characters with
  | some rest => readAuthority? "http" 80 (rest.dropWhile isPathSeparator)
  | none =>
    match "https:".toList.isPrefixOf? characters with
    | some rest => readAuthority? "https" 443 (rest.dropWhile isPathSeparator)
    | none => none

end TestScribe.Backend

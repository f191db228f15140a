import TestScribe.Toml.Moment
import TestScribe.Toml.Number
import TestScribe.Toml.Quoted
import TestScribe.Toml.Table
/-!
# Reading TOML documents

A document of TOML 1.0 is read line by line: a header opens a table, and each
line with a key adds to the table that was opened last.
-/

namespace TestScribe.Toml

/-- How deep keys, arrays and inline tables may be nested. -/
def nestingLimit : Nat := 80

/-- May the character stand in a key without quotes? -/
def isBareKeyCharacter (character : Char) : Bool :=
  character.isAlphanum || character == '_' || character == '-'

/-- One part of a key. -/
def readSimpleKey? (text : List Char) : Option (String × List Char) :=
  match readShortString? text with
  | some found => some found
  | none =>
    match text.takeWhile isBareKeyCharacter with
    | [] => none
    | name => some (String.ofList name, text.dropWhile isBareKeyCharacter)

/-- The parts of a dotted key, with blanks around each; the number of rounds
bounds how many there are. -/
def readKeyParts? : Nat → List Char → Option (List String × List Char)
  | 0, _ => none
  | rounds + 1, text => do
    let (part, rest) ← readSimpleKey? (afterBlanks text)
    match afterBlanks rest with
    | '.' :: rest => do
      let (parts, rest) ← readKeyParts? rounds rest
      return (part :: parts, rest)
    | rest => return ([part], rest)

/-- A key as the path to its table and the name in that table. -/
def readKey? (text : List Char) : Option ((List String × String) × List Char) := do
  let (parts, rest) ← readKeyParts? (nestingLimit - 1) text
  let name ← parts.getLast?
  return ((parts.dropLast, name), rest)

/-- What follows blanks, comments and line ends; the number of rounds bounds how
many lines there are. -/
def afterPadding : Nat → List Char → List Char
  | 0, text => text
  | rounds + 1, text =>
    match afterNewline? (afterComment (afterBlanks text)) with
    | some rest => afterPadding rounds rest
    | none => afterBlanks text

/-- A number, a date or a time. -/
def readNumeric? (text : List Char) : Option (Value × List Char) :=
  match readMoment? text with
  | some (_, rest) => some (.moment, rest)
  | none =>
    match readFloat? text with
    | some (_, rest) => some (.float, rest)
    | none => (readInteger? text).map fun (number, rest) => (.integer number, rest)

/-- A value that holds no other values. -/
def readScalar? : List Char → Option (Value × List Char)
  | 't' :: 'r' :: 'u' :: 'e' :: rest => some (.boolean true, rest)
  | 'f' :: 'a' :: 'l' :: 's' :: 'e' :: rest => some (.boolean false, rest)
  | text =>
    match readString? text with
    | some (content, rest) => some (.text content, rest)
    | none => readNumeric? text

mutual

/-- A value.  The depth counts the levels that may still be opened, and the number
of rounds bounds how far the reading may go on. -/
def readValue? : Nat → Nat → List Char → Option (Value × List Char)
  | 0, _, _ => none
  | rounds + 1, depth, '[' :: rest =>
    if depth = 0 then none
    else (readItems? rounds (depth - 1) rest).map fun (items, rest) => (.array items, rest)
  | rounds + 1, depth, '{' :: rest =>
    if depth = 0 then none
    else
      match afterBlanks rest with
      | '}' :: rest => some (.table .inline [], rest)
      | _ => (readPairs? rounds (depth - 1) [] rest).map fun (entries, rest) =>
          (.table .inline entries, rest)
  | _, _, text => readScalar? text

/-- The items of an array, up to its closing bracket; a comma may follow the
last. -/
def readItems? : Nat → Nat → List Char → Option (List Value × List Char)
  | 0, _, _ => none
  | rounds + 1, depth, text =>
    match afterPadding text.length text with
    | ']' :: rest => some ([], rest)
    | text =>
      match readValue? rounds depth text with
      | none => none
      | some (item, rest) =>
        match afterPadding rest.length rest with
        | ',' :: rest =>
          (readItems? rounds depth rest).map fun (items, rest) => (item :: items, rest)
        | ']' :: rest => some ([item], rest)
        | _ => none

/-- The pairs of an inline table, up to its closing brace, added to the entries
read before. -/
def readPairs? : Nat → Nat → Entries → List Char → Option (Entries × List Char)
  | 0, _, _, _ => none
  | rounds + 1, depth, entries, text =>
    match readKey? text with
    | some ((path, name), '=' :: rest) =>
      match readValue? rounds depth (afterBlanks rest) with
      | none => none
      | some (value, rest) =>
        match addValue? path name value entries with
        | none => none
        | some entries =>
          match afterBlanks rest with
          | ',' :: rest => readPairs? rounds depth entries rest
          | '}' :: rest => some (entries, rest)
          | _ => none
    | _ => none

end

/-- The tables read so far, and the path to the one that was opened last. -/
structure Progress where
  /-- The entries of the whole document. -/
  entries : Entries
  /-- The path to the table that keys are added to. -/
  current : List String

/-- A header line whose first bracket has been read. -/
def readHeader? (progress : Progress) : List Char → Option (Progress × List Char)
  | '[' :: rest => do
    let ((path, name), rest) ← readKey? rest
    match rest with
    | ']' :: ']' :: rest => do
      let entries ← openElement? path name progress.entries
      return (⟨entries, path ++ [name]⟩, ← afterLineEnd? rest)
    | _ => none
  | text => do
    let ((path, name), rest) ← readKey? text
    match rest with
    | ']' :: rest => do
      let entries ← openTable? path name progress.entries
      return (⟨entries, path ++ [name]⟩, ← afterLineEnd? rest)
    | _ => none

/-- A line with a key and a value. -/
def readPair? (progress : Progress) (text : List Char) : Option (Progress × List Char) := do
  let ((path, name), rest) ← readKey? text
  match rest with
  | '=' :: rest => do
    let (value, rest) ← readValue? (2 * rest.length + 2) (nestingLimit - 1) (afterBlanks rest)
    let entries ← addBelow? progress.current path name value progress.entries
    return ({ progress with entries := entries }, ← afterLineEnd? rest)
  | _ => none

/-- The lines of a document; the number of rounds bounds how many there are. -/
def readDocument? : Nat → Progress → List Char → Option Entries
  | 0, _, _ => none
  | rounds + 1, progress, text =>
    match afterBlanks text with
    | [] => some progress.entries
    | '[' :: rest =>
      match readHeader? progress rest with
      | some (progress, rest) => readDocument? rounds progress rest
      | none => none
    | '#' :: rest =>
      match afterLineEnd? ('#' :: rest) with
      | some rest => readDocument? rounds progress rest
      | none => none
    | text =>
      match afterNewline? text with
      | some rest => readDocument? rounds progress rest
      | none =>
        match readPair? progress text with
        | some (progress, rest) => readDocument? rounds progress rest
        | none => none

/-- The entries of a document, if the text is one.  A byte-order mark in front is
passed over. -/
def parse? (text : String) : Option Entries :=
  let characters :=
    match text.toList with
    | '\uFEFF' :: rest => rest
    | characters => characters
  readDocument? (characters.length + 1) ⟨[], []⟩ characters

end TestScribe.Toml

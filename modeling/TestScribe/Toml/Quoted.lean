import TestScribe.Text.Hexadecimal
import TestScribe.Toml.Value
/-!
# TOML strings

Strings stand between quotes or apostrophes, one for a string on one line and
three for a string over several.  Between quotes a backslash escapes; between
apostrophes it stands for itself.  Line ends in a string are line feeds,
however they are written.
-/

namespace TestScribe.Toml

open TestScribe.Text

/-- The character that a backslash and a letter stand for. -/
def shortEscape? (letter : Char) : Option Char :=
  match letter with
  | 'b' => some '\x08'
  | 't' => some '\t'
  | 'n' => some '\n'
  | 'f' => some '\x0C'
  | 'r' => some '\r'
  | '"' => some '"'
  | '\\' => some '\\'
  | _ => none

/-- The character whose code point is spelled by so many digits in front. -/
def readCodePoint? (width : Nat) (text : List Char) : Option (Char × List Char) := do
  let digits := text.take width
  if digits.length = width then
    let character ← (hexValue? digits).bind characterOfCode?
    return (character, text.drop width)
  else
    none

/-- The character that an escape stands for; the backslash has been read. -/
def readEscape? : List Char → Option (Char × List Char)
  | 'u' :: rest => readCodePoint? 4 rest
  | 'U' :: rest => readCodePoint? 8 rest
  | letter :: rest => (shortEscape? letter).map (·, rest)
  | [] => none

/-- A string between quotes on one line, up to its closing quote.  The number of
rounds bounds its length. -/
def readBasic? : Nat → List Char → Option (List Char × List Char)
  | 0, _ => none
  | _, [] => none
  | rounds + 1, c :: rest =>
    if c == '"' then
      some ([], rest)
    else if c == '\\' then do
      let (character, rest) ← readEscape? rest
      let (characters, rest) ← readBasic? rounds rest
      return (character :: characters, rest)
    else if isVisible c then do
      let (characters, rest) ← readBasic? rounds rest
      return (c :: characters, rest)
    else
      none

/-- A string between apostrophes on one line, up to its closing apostrophe. -/
def readVerbatim? (text : List Char) : Option (List Char × List Char) :=
  let isInside (c : Char) : Bool := c != '\'' && isVisible c
  match text.dropWhile isInside with
  | '\'' :: rest => some (text.takeWhile isInside, rest)
  | _ => none

/-- What follows a line end and all blanks and line ends after it. -/
def afterContinuation? (text : List Char) : Option (List Char) :=
  (afterNewline? (afterBlanks text)).map fun rest =>
    skip rest.length rest
where
  /-- Skip blanks and line ends. -/
  skip : Nat → List Char → List Char
    | 0, text => text
    | rounds + 1, text =>
      match afterNewline? (afterBlanks text) with
      | some rest => skip rounds rest
      | none => afterBlanks text

/-- A string over several lines, up to its three closing delimiters.  Up to two
more delimiters before those belong to the string. -/
def readLines? (delimiter : Char) (escapes : Bool) : Nat → List Char → Option (List Char × List Char)
  | 0, _ => none
  | _, [] => none
  | rounds + 1, c :: rest =>
    let text := c :: rest
    if c == delimiter then
      let run := text.takeWhile (· == delimiter)
      let after := text.dropWhile (· == delimiter)
      if run.length < 3 then do
        let (characters, rest) ← readLines? delimiter escapes rounds after
        return (run ++ characters, rest)
      else if run.length ≤ 5 then
        some (run.drop 3, after)
      else
        none
    else if escapes && c == '\\' then
      match afterContinuation? rest with
      | some rest => readLines? delimiter escapes rounds rest
      | none => do
        let (character, rest) ← readEscape? rest
        let (characters, rest) ← readLines? delimiter escapes rounds rest
        return (character :: characters, rest)
    else if isVisible c then do
      let (characters, rest) ← readLines? delimiter escapes rounds rest
      return (c :: characters, rest)
    else
      match afterNewline? text with
      | some rest => do
        let (characters, rest) ← readLines? delimiter escapes rounds rest
        return ('\n' :: characters, rest)
      | none => none

/-- The text without a line end in front. -/
def withoutLeadingNewline (text : List Char) : List Char :=
  (afterNewline? text).getD text

/-- A string on one line. -/
def readShortString? : List Char → Option (String × List Char)
  | '"' :: rest => (readBasic? (rest.length + 1) rest).map fun (characters, rest) =>
      (String.ofList characters, rest)
  | '\'' :: rest => (readVerbatim? rest).map fun (characters, rest) =>
      (String.ofList characters, rest)
  | _ => none

/-- A string in any of the four spellings. -/
def readString? : List Char → Option (String × List Char)
  | '"' :: '"' :: '"' :: rest => readLong '"' true rest
  | '\'' :: '\'' :: '\'' :: rest => readLong '\'' false rest
  | text => readShortString? text
where
  /-- A string over several lines whose opening delimiters have been read. -/
  readLong (delimiter : Char) (escapes : Bool) (rest : List Char) : Option (String × List Char) :=
    let rest := withoutLeadingNewline rest
    (readLines? delimiter escapes (rest.length + 1) rest).map fun (characters, rest) =>
      (String.ofList characters, rest)

end TestScribe.Toml

import TestScribe.Json.Value
import TestScribe.Text.Hexadecimal
import TestScribe.Text.Utf8
/-!
# Reading JSON

The reader accepts the texts of RFC 8259.  It reads text units, so that bytes
which are not UTF-8 can be passed over inside a string that nobody asks for.
-/

namespace TestScribe.Json

open TestScribe.Text

/-- Is this unit white space between tokens? -/
def isBlankUnit (unit : TextUnit) : Bool :=
  unit == some ' ' || unit == some '\t' || unit == some '\n' || unit == some '\r'

/-- What follows the white space in front. -/
def afterBlanks (text : List TextUnit) : List TextUnit :=
  text.dropWhile isBlankUnit

/-- One piece of a string literal. -/
inductive Piece where
  /-- A unit that stands for itself. -/
  | plain (unit : TextUnit)
  /-- A UTF-16 code unit given by its number. -/
  | codeUnit (number : Nat)

/-- The character that a backslash and a letter stand for. -/
def shortEscape? (letter : Char) : Option Char :=
  match letter with
  | '"' => some '"'
  | '\\' => some '\\'
  | '/' => some '/'
  | 'b' => some '\x08'
  | 'f' => some '\x0C'
  | 'n' => some '\n'
  | 'r' => some '\r'
  | 't' => some '\t'
  | _ => none

/-- The number spelled by four units that are digits to base sixteen. -/
def codeUnitNumber? (digits : List TextUnit) : Option Nat :=
  (digits.mapM id).bind hexValue?

/-- The pieces of a string literal up to its closing quote, and what follows it.
Control characters have to be escaped. -/
def readPieces? : List TextUnit → Option (List Piece × List TextUnit)
  | [] => none
  | some '"' :: rest => some ([], rest)
  | some '\\' :: some 'u' :: a :: b :: c :: d :: rest => do
    let number ← codeUnitNumber? [a, b, c, d]
    let (pieces, rest) ← readPieces? rest
    return (.codeUnit number :: pieces, rest)
  | some '\\' :: some letter :: rest => do
    let character ← shortEscape? letter
    let (pieces, rest) ← readPieces? rest
    return (.plain (some character) :: pieces, rest)
  | some '\\' :: _ => none
  | unit :: rest =>
    if unit.any (·.toNat < 0x20) then
      none
    else do
      let (pieces, rest) ← readPieces? rest
      return (.plain unit :: pieces, rest)

/-- Is the code unit the first half of a surrogate pair? -/
def isHighSurrogate (number : Nat) : Bool :=
  0xD800 ≤ number && number ≤ 0xDBFF

/-- Is the code unit the second half of a surrogate pair? -/
def isLowSurrogate (number : Nat) : Bool :=
  0xDC00 ≤ number && number ≤ 0xDFFF

/-- The text that the pieces spell.  Surrogates count in pairs only. -/
def spelledText? : List Piece → Option (List Char)
  | [] => some []
  | .plain unit :: pieces => do
    let character ← unit
    return character :: (← spelledText? pieces)
  | .codeUnit high :: .codeUnit low :: pieces =>
    if isHighSurrogate high then
      if isLowSurrogate low then do
        let code := 0x10000 + (high - 0xD800) * 0x400 + (low - 0xDC00)
        return Char.ofNat code :: (← spelledText? pieces)
      else
        none
    else do
      let character ← characterOfCode? high
      return character :: (← spelledText? (.codeUnit low :: pieces))
  | .codeUnit number :: pieces => do
    let character ← characterOfCode? number
    return character :: (← spelledText? pieces)

/-- A string literal whose opening quote has been read. -/
def readLiteral? (text : List TextUnit) : Option (Literal × List TextUnit) := do
  let (pieces, rest) ← readPieces? text
  return ((spelledText? pieces).map String.ofList, rest)

/-- Is this unit a decimal digit? -/
def isDigitUnit (unit : TextUnit) : Bool :=
  unit.any Char.isDigit

/-- The characters of the units that hold one. -/
def charactersOf (units : List TextUnit) : List Char :=
  units.filterMap id

/-- The decimal digits in front. -/
def readDigits (text : List TextUnit) : List Char × List TextUnit :=
  (charactersOf (text.takeWhile isDigitUnit), text.dropWhile isDigitUnit)

/-- The digits in front, of which there has to be one. -/
def readSomeDigits? (text : List TextUnit) : Option (List Char × List TextUnit) :=
  match readDigits text with
  | ([], _) => none
  | found => some found

/-- The integer part of a number: a zero, or digits that begin with another. -/
def readIntegerPart? : List TextUnit → Option (List Char × List TextUnit)
  | some '0' :: rest => some (['0'], rest)
  | text => readSomeDigits? text

/-- The fraction of a number, if there is a point. -/
def readFraction? : List TextUnit → Option (List Char × List TextUnit)
  | some '.' :: rest => do
    let (digits, rest) ← readSomeDigits? rest
    return ('.' :: digits, rest)
  | text => some ([], text)

/-- The sign in front of an exponent, if there is one. -/
def readSign : List TextUnit → List Char × List TextUnit
  | some '+' :: rest => (['+'], rest)
  | some '-' :: rest => (['-'], rest)
  | text => ([], text)

/-- The exponent of a number, if there is one. -/
def readExponent? : List TextUnit → Option (List Char × List TextUnit)
  | some letter :: rest =>
    if letter == 'e' || letter == 'E' then do
      let (sign, rest) := readSign rest
      let (digits, rest) ← readSomeDigits? rest
      return (letter :: sign ++ digits, rest)
    else
      some ([], some letter :: rest)
  | text => some ([], text)

/-- A number without its sign. -/
def readMagnitude? (text : List TextUnit) : Option (List Char × List TextUnit) := do
  let (whole, rest) ← readIntegerPart? text
  let (fraction, rest) ← readFraction? rest
  let (exponent, rest) ← readExponent? rest
  return (whole ++ fraction ++ exponent, rest)

/-- A number as it is spelled. -/
def readNumber? : List TextUnit → Option (List Char × List TextUnit)
  | some '-' :: rest => do
    let (magnitude, rest) ← readMagnitude? rest
    return ('-' :: magnitude, rest)
  | text => readMagnitude? text

/-- What follows a word that is spelled out in full. -/
def afterWord? (word : String) (text : List TextUnit) : Option (List TextUnit) :=
  (word.toList.map some).isPrefixOf? text

/-- A value that is neither a string nor an array nor an object. -/
def readPlain? (text : List TextUnit) : Option (Value × List TextUnit) :=
  match afterWord? "null" text with
  | some rest => some (.null, rest)
  | none =>
    match afterWord? "true" text with
    | some rest => some (.boolean true, rest)
    | none =>
      match afterWord? "false" text with
      | some rest => some (.boolean false, rest)
      | none => (readNumber? text).map fun (spelling, rest) =>
          (.number (String.ofList spelling), rest)

mutual

/-- A value, with white space in front of it.  The number of rounds bounds how
far the reading may go on. -/
def readValue? : Nat → List TextUnit → Option (Value × List TextUnit)
  | 0, _ => none
  | rounds + 1, text =>
    match afterBlanks text with
    | some '{' :: rest =>
      match afterBlanks rest with
      | some '}' :: rest => some (.object [], rest)
      | rest => (readMembers? rounds rest).map fun (members, rest) =>
          (.object members, rest)
    | some '[' :: rest =>
      match afterBlanks rest with
      | some ']' :: rest => some (.array [], rest)
      | rest => (readItems? rounds rest).map fun (items, rest) => (.array items, rest)
    | some '"' :: rest =>
      (readLiteral? rest).map fun (literal, rest) => (.text literal, rest)
    | rest => readPlain? rest

/-- The items of an array that is not empty, up to its closing bracket. -/
def readItems? : Nat → List TextUnit → Option (List Value × List TextUnit)
  | 0, _ => none
  | rounds + 1, text =>
    match readValue? rounds text with
    | none => none
    | some (item, rest) =>
      match afterBlanks rest with
      | some ',' :: rest =>
        (readItems? rounds rest).map fun (items, rest) => (item :: items, rest)
      | some ']' :: rest => some ([item], rest)
      | _ => none

/-- The members of an object that is not empty, up to its closing brace. -/
def readMembers? : Nat → List TextUnit → Option (List (Literal × Value) × List TextUnit)
  | 0, _ => none
  | rounds + 1, text =>
    match readName? (afterBlanks text) with
    | none => none
    | some (name, rest) =>
      match readValue? rounds rest with
      | none => none
      | some (value, rest) =>
        match afterBlanks rest with
        | some ',' :: rest =>
          (readMembers? rounds rest).map fun (members, rest) =>
            ((name, value) :: members, rest)
        | some '}' :: rest => some ([(name, value)], rest)
        | _ => none
where
  /-- The name of a member and the colon after it. -/
  readName? : List TextUnit → Option (Literal × List TextUnit)
    | some '"' :: rest => do
      let (name, rest) ← readLiteral? rest
      match afterBlanks rest with
      | some ':' :: rest => return (name, rest)
      | _ => none
    | _ => none

end

/-- The value that the units spell, if they are one JSON text. -/
def parseUnits? (text : List TextUnit) : Option Value :=
  match readValue? (2 * text.length + 2) text with
  | some (value, rest) => if (afterBlanks rest).isEmpty then some value else none
  | none => none

/-- The value that a text spells, if it is one JSON text. -/
def parse? (text : String) : Option Value :=
  parseUnits? (text.toList.map some)

/-- The value that bytes spell, if they are one JSON text. -/
def parseBytes? (bytes : ByteArray) : Option Value :=
  parseUnits? (decodeUnits bytes)

end TestScribe.Json

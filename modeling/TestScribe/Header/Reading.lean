import TestScribe.Text.Whitespace
import TestScribe.Text.WordCharacter
/-!
# Reading the pieces of a header

A header is read from left to right.  A reader is given what is left of the
line and answers with what it found and what is left after it.  Runs of white
space and of word characters are always read to their end: the pieces that may
follow them never begin with a character of the run, so a shorter run could
not be continued.
-/

namespace TestScribe.Header

open TestScribe.Text

/-- The first success of a reader tried at each position of the text in turn,
from the left. -/
def leftmost? {α : Type} (reader : List Char → Option α) : List Char → Option α
  | [] => reader []
  | c :: rest =>
    match reader (c :: rest) with
    | some found => some found
    | none => leftmost? reader rest

/-- What follows a literal text. -/
def afterText? (literal : String) (text : List Char) : Option (List Char) :=
  literal.toList.isPrefixOf? text

/-- What follows the white space in front, if there is any. -/
def afterSpaces (text : List Char) : List Char :=
  text.dropWhile isWhitespace

/-- What follows the white space in front, of which there has to be some. -/
def afterGap? : List Char → Option (List Char)
  | [] => none
  | c :: rest => if isWhitespace c then some (afterSpaces rest) else none

/-- What follows a keyword and the white space after it. -/
def afterKeyword? (keyword : String) (text : List Char) : Option (List Char) :=
  (afterText? keyword text).bind afterGap?

/-- What follows a keyword and the white space after it, or the whole text if
it does not begin that way. -/
def afterOptionalKeyword (keyword : String) (text : List Char) : List Char :=
  (afterKeyword? keyword text).getD text

/-- A name: the word characters in front, of which there has to be one. -/
def word? (text : List Char) : Option (List Char × List Char) :=
  match text.span isWordCharacter with
  | ([], _) => none
  | found => some found

/-- A parameter list: the raw text between an opening parenthesis and the
first closing one. -/
def parenthesized? : List Char → Option (List Char × List Char)
  | '(' :: inner =>
    match inner.dropWhile (· != ')') with
    | [] => none
    | _ :: rest => some (inner.takeWhile (· != ')'), rest)
  | _ => none

/-- A name, and after optional white space its parameter list. -/
def namedParameters? (text : List Char) :
    Option ((List Char × List Char) × List Char) := do
  let (name, rest) ← word? text
  let (parameters, rest) ← parenthesized? (afterSpaces rest)
  return ((name, parameters), rest)

end TestScribe.Header

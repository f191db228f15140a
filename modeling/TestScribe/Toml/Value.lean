/-!
# TOML values

A document is a table of values.  A table remembers how it came about, because
that decides which later lines may still add to it.
-/

namespace TestScribe.Toml

/-- How a table came about. -/
inductive TableOrigin where
  /-- It has a header of its own. -/
  | header
  /-- It stands on the way to a table that has a header. -/
  | implied
  /-- It stands on the way of a dotted key. -/
  | dotted
  /-- It is written between braces and closed for good. -/
  | inline
  deriving DecidableEq

/-- A TOML value. -/
inductive Value where
  | text (content : String)
  /-- An integer of 64 bits. -/
  | integer (number : Int)
  /-- A number with a fraction or an exponent, an infinity or not a number. -/
  | float
  | boolean (value : Bool)
  | moment
  | array (items : List Value)
  | table (origin : TableOrigin) (entries : List (String × Value))
  /-- An array of tables that have headers. -/
  | tables (elements : List (List (String × Value)))

/-- The entries of a table. -/
abbrev Entries := List (String × Value)

/-- Is this a blank within a line? -/
def isBlank (character : Char) : Bool :=
  character == ' ' || character == '\t'

/-- What follows the blanks in front. -/
def afterBlanks (text : List Char) : List Char :=
  text.dropWhile isBlank

/-- What follows the line end in front. -/
def afterNewline? : List Char → Option (List Char)
  | '\n' :: rest => some rest
  | '\r' :: '\n' :: rest => some rest
  | _ => none

/-- May the character stand unescaped in a comment or a string?  Control
characters other than the tab may not. -/
def isVisible (character : Char) : Bool :=
  character == '\t' || (0x20 ≤ character.toNat && character.toNat != 0x7F)

/-- What follows the comment in front, if there is one. -/
def afterComment : List Char → List Char
  | '#' :: rest => rest.dropWhile isVisible
  | text => text

/-- What follows the end of a line: blanks, a comment, and a line end or the end
of the text. -/
def afterLineEnd? (text : List Char) : Option (List Char) :=
  match afterComment (afterBlanks text) with
  | [] => some []
  | rest => afterNewline? rest

end TestScribe.Toml

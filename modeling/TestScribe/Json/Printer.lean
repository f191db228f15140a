import TestScribe.Json.Value
import TestScribe.Text.Hexadecimal
/-!
# Printing JSON

Values are printed without any white space, or over several lines with two
spaces of indentation for each level.  Strings escape the quote, the backslash
and the control characters; all other characters stand for themselves.
-/

namespace TestScribe.Json

open TestScribe.Text

/-- How one character is written in a string literal. -/
def escapedCharacter (character : Char) : List Char :=
  match character with
  | '"' => ['\\', '"']
  | '\\' => ['\\', '\\']
  | '\x08' => ['\\', 'b']
  | '\x0C' => ['\\', 'f']
  | '\n' => ['\\', 'n']
  | '\r' => ['\\', 'r']
  | '\t' => ['\\', 't']
  | c => if c.toNat < 0x20 then ['\\', 'u'] ++ paddedHexDigits 4 c.toNat else [c]

/-- A text as a string literal. -/
def stringLiteral (text : List Char) : List Char :=
  ['"'] ++ text.flatMap escapedCharacter ++ ['"']

/-- A literal as it is printed: one that spells no text shows as U+FFFD. -/
def printedLiteral (literal : Literal) : List Char :=
  stringLiteral (literal.getD "\uFFFD").toList

mutual

/-- The value without any white space. -/
def compactText : Value → List Char
  | .null => "null".toList
  | .boolean true => "true".toList
  | .boolean false => "false".toList
  | .number spelling => spelling.toList
  | .text literal => printedLiteral literal
  | .array items => ['['] ++ compactItems items ++ [']']
  | .object members => ['{'] ++ compactMembers members ++ ['}']

/-- The items of an array, with commas between them. -/
def compactItems : List Value → List Char
  | [] => []
  | [item] => compactText item
  | item :: items => compactText item ++ [','] ++ compactItems items

/-- The members of an object, with commas between them. -/
def compactMembers : List (Literal × Value) → List Char
  | [] => []
  | [(name, value)] => printedLiteral name ++ [':'] ++ compactText value
  | (name, value) :: members =>
    printedLiteral name ++ [':'] ++ compactText value ++ [','] ++ compactMembers members

end

/-- A new line, indented for the given level. -/
def newLine (level : Nat) : List Char :=
  '\n' :: List.replicate (2 * level) ' '

mutual

/-- The value over several lines; the line it begins on is at the given level. -/
def indentedText (level : Nat) : Value → List Char
  | .null => "null".toList
  | .boolean true => "true".toList
  | .boolean false => "false".toList
  | .number spelling => spelling.toList
  | .text literal => printedLiteral literal
  | .array [] => ['[', ']']
  | .array items => ['['] ++ indentedItems (level + 1) items ++ newLine level ++ [']']
  | .object [] => ['{', '}']
  | .object members => ['{'] ++ indentedMembers (level + 1) members ++ newLine level ++ ['}']

/-- The items of an array, each on a line of its own. -/
def indentedItems (level : Nat) : List Value → List Char
  | [] => []
  | [item] => newLine level ++ indentedText level item
  | item :: items =>
    newLine level ++ indentedText level item ++ [','] ++ indentedItems level items

/-- The members of an object, each on a line of its own. -/
def indentedMembers (level : Nat) : List (Literal × Value) → List Char
  | [] => []
  | [(name, value)] =>
    newLine level ++ printedLiteral name ++ [':', ' '] ++ indentedText level value
  | (name, value) :: members =>
    newLine level ++ printedLiteral name ++ [':', ' '] ++ indentedText level value
      ++ [','] ++ indentedMembers level members

end

/-- The value as text without any white space. -/
def Value.compact (value : Value) : String :=
  String.ofList (compactText value)

/-- The value as text over several lines. -/
def Value.pretty (value : Value) : String :=
  String.ofList (indentedText 0 value)

end TestScribe.Json

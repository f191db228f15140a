import TestScribe.Text.GraphemeExtendTable
import TestScribe.Text.Hexadecimal
import TestScribe.Text.InversionList
import TestScribe.Text.UnprintableTable
/-!
# Quoted texts for display

A text is displayed between double quotes.  The quote and the backslash are
escaped, four control characters have short escapes, and every character that
would not be seen on its own is shown by its code point.
-/

namespace TestScribe.Text

/-- Would the character vanish or change its neighbour when printed? -/
def isInvisible (character : Char) : Bool :=
  inversionListContains graphemeExtendBoundaries character.toNat
    || inversionListContains unprintableBoundaries character.toNat

/-- How one character is shown between double quotes. -/
def quotedCharacter (character : Char) : List Char :=
  match character with
  | '\x00' => ['\\', '0']
  | '\t' => ['\\', 't']
  | '\r' => ['\\', 'r']
  | '\n' => ['\\', 'n']
  | '\\' => ['\\', '\\']
  | '"' => ['\\', '"']
  | c =>
    if isInvisible c then
      ['\\', 'u', '{'] ++ hexDigits c.toNat ++ ['}']
    else
      [c]

/-- The text between double quotes, with every invisible character escaped. -/
def quoted (text : String) : String :=
  String.ofList (['"'] ++ text.toList.flatMap quotedCharacter ++ ['"'])

end TestScribe.Text

import TestScribe.Text.InversionList
import TestScribe.Text.WordCharacterTable
/-!
# Word characters

Names are runs of word characters: Alphabetic characters, marks, decimal
digits, connector punctuation and the two join controls.
-/

namespace TestScribe.Text

/-- May this character stand in a name? -/
def isWordCharacter (character : Char) : Bool :=
  if character.toNat < 0x80 then
    character.isAlphanum || character == '_'
  else
    inversionListContains wordCharacterBoundaries character.toNat

end TestScribe.Text

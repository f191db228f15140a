/-!
# Hexadecimal digits

Numbers written to base sixteen, with lower-case letters, and the value of a
written digit in either case.
-/

namespace TestScribe.Text

/-- The lower-case digits of a number to base sixteen, without leading zeros. -/
def hexDigits (number : Nat) : List Char :=
  Nat.toDigits 16 number

/-- The lower-case digits of a number to base sixteen, with zeros in front up
to the given width. -/
def paddedHexDigits (width number : Nat) : List Char :=
  let digits := hexDigits number
  List.replicate (width - digits.length) '0' ++ digits

/-- The value of a digit to base sixteen. -/
def hexDigitValue? (character : Char) : Option Nat :=
  if '0' ≤ character ∧ character ≤ '9' then
    some (character.toNat - '0'.toNat)
  else if 'a' ≤ character ∧ character ≤ 'f' then
    some (character.toNat - 'a'.toNat + 10)
  else if 'A' ≤ character ∧ character ≤ 'F' then
    some (character.toNat - 'A'.toNat + 10)
  else
    none

/-- The number that a run of digits to base sixteen spells. -/
def hexValue? (digits : List Char) : Option Nat :=
  digits.foldlM (fun total digit => (hexDigitValue? digit).map (16 * total + ·)) 0

/-- The character with this code point, if it is one: surrogates and numbers
past the last code point are not. -/
def characterOfCode? (code : Nat) : Option Char :=
  if h : code.isValidChar then some (Char.ofNatAux code h) else none

end TestScribe.Text

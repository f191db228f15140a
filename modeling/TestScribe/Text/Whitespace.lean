/-!
# White space

Blank characters are the members of the Unicode property White_Space.  This
file says how a text is trimmed of them, when it is blank, and how far it is
indented.
-/

namespace TestScribe.Text

/-- Membership in the Unicode property White_Space. -/
def isWhitespace (character : Char) : Bool :=
  let code := character.toNat
  (0x09 ≤ code && code ≤ 0x0D) || code == 0x20 || code == 0x85 || code == 0xA0
    || code == 0x1680 || (0x2000 ≤ code && code ≤ 0x200A) || code == 0x2028
    || code == 0x2029 || code == 0x202F || code == 0x205F || code == 0x3000

/-- What is left once the leading white space is dropped. -/
def trimStart (text : List Char) : List Char :=
  text.dropWhile isWhitespace

/-- What is left once the trailing white space is dropped. -/
def trimEnd (text : List Char) : List Char :=
  (text.reverse.dropWhile isWhitespace).reverse

/-- The text without white space at either end. -/
def trim (text : List Char) : List Char :=
  trimEnd (trimStart text)

/-- A text is blank when it holds nothing but white space. -/
def isBlank (text : List Char) : Bool :=
  text.all isWhitespace

/-- The number of leading white-space characters. -/
def indentation (text : List Char) : Nat :=
  (text.takeWhile isWhitespace).length

end TestScribe.Text

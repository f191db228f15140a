import TestScribe.Text.Hexadecimal
import TestScribe.Toml.Value
/-!
# TOML numbers

Integers have 64 bits.  Underscores may stand between digits.  Floating-point
numbers are only checked: one that would round to positive infinity is refused.
-/

namespace TestScribe.Toml

open TestScribe.Text

/-- The digits at the front with single underscores between them; the
underscores are left out of what is read. -/
def digitRun (isDigit : Char → Bool) : List Char → List Char × List Char
  | [] => ([], [])
  | '_' :: c :: rest =>
    if isDigit c then
      let (digits, rest) := digitRun isDigit rest
      (c :: digits, rest)
    else
      ([], '_' :: c :: rest)
  | c :: rest =>
    if isDigit c then
      let (digits, rest) := digitRun isDigit rest
      (c :: digits, rest)
    else
      ([], c :: rest)

/-- A run of digits that begins with a digit. -/
def readDigits? (isDigit : Char → Bool) (text : List Char) : Option (List Char × List Char) :=
  match text with
  | c :: _ => if isDigit c then some (digitRun isDigit text) else none
  | [] => none

/-- The decimal digits of a whole number: a zero alone, or digits that begin with
another. -/
def readWhole? : List Char → Option (List Char × List Char)
  | '0' :: rest => some (['0'], rest)
  | text => readDigits? Char.isDigit text

/-- Is there a minus sign, and what follows the sign. -/
def readSign : List Char → Bool × List Char
  | '-' :: rest => (true, rest)
  | '+' :: rest => (false, rest)
  | text => (false, text)

/-- The value of an integer that fits in 64 bits. -/
def boundedInteger? (isNegative : Bool) (magnitude : Nat) : Option Int :=
  if isNegative then
    if magnitude ≤ Nat.pow 2 63 then some (-(magnitude : Int)) else none
  else
    if magnitude < Nat.pow 2 63 then some magnitude else none

/-- The number that digits spell to a base. -/
def numberOfDigits (base : Nat) (digits : List Char) : Nat :=
  digits.foldl (fun total digit => base * total + (hexDigitValue? digit).getD 0) 0

/-- An integer to base sixteen, eight or two, whose mark has been read. -/
def readRadix? (base : Nat) (text : List Char) : Option (Int × List Char) := do
  let isDigit (c : Char) : Bool := (hexDigitValue? c).any (· < base)
  let (digits, rest) ← readDigits? isDigit text
  let number ← boundedInteger? false (numberOfDigits base digits)
  return (number, rest)

/-- An integer. -/
def readInteger? : List Char → Option (Int × List Char)
  | '0' :: 'x' :: rest => readRadix? 16 rest
  | '0' :: 'o' :: rest => readRadix? 8 rest
  | '0' :: 'b' :: rest => readRadix? 2 rest
  | text => do
    let (isNegative, rest) := readSign text
    let (digits, rest) ← readWhole? rest
    let number ← boundedInteger? isNegative (numberOfDigits 10 digits)
    return (number, rest)

/-- Does `digits` times ten to the `exponent` round to infinity in double
precision?  The first such number is 2 ^ 1024 - 2 ^ 970.  Numbers far away from
it are told by their length alone. -/
def overflowsDouble (digits : List Char) (exponent : Int) : Bool :=
  let mantissa := numberOfDigits 10 digits
  let limit := Nat.pow 2 1024 - Nat.pow 2 970
  let magnitude := (Nat.toDigits 10 mantissa).length + exponent
  if mantissa = 0 then false
  else if magnitude < 300 then false
  else if magnitude > 320 then true
  else if exponent < 0 then limit * Nat.pow 10 exponent.natAbs ≤ mantissa
  else limit ≤ mantissa * Nat.pow 10 exponent.natAbs

/-- The digits after a point, if there is one. -/
def readFraction? : List Char → Option (Option (List Char) × List Char)
  | '.' :: rest => (readDigits? Char.isDigit rest).map fun (digits, rest) =>
      (some digits, rest)
  | text => some (none, text)

/-- The number after an exponent mark, if there is one. -/
def readExponent? : List Char → Option (Option Int × List Char)
  | c :: rest =>
    if c == 'e' || c == 'E' then do
      let (isNegative, rest) := readSign rest
      let (digits, rest) ← readDigits? Char.isDigit rest
      let number : Int := numberOfDigits 10 digits
      return (some (if isNegative then -number else number), rest)
    else
      some (none, c :: rest)
  | [] => some (none, [])

/-- A number with a fraction or an exponent. -/
def readDecimal? (text : List Char) : Option (Unit × List Char) := do
  let (isNegative, rest) := readSign text
  let (whole, rest) ← readWhole? rest
  let (fraction, rest) ← readFraction? rest
  let (exponent, rest) ← readExponent? rest
  if fraction.isNone && exponent.isNone then
    none
  else
    let decimals := fraction.getD []
    let scale := exponent.getD 0 - (decimals.length : Int)
    if !isNegative && overflowsDouble (whole ++ decimals) scale then none else some ((), rest)

/-- An infinity or not a number. -/
def readSpecial? (text : List Char) : Option (Unit × List Char) :=
  let (_, rest) := readSign text
  match rest with
  | 'i' :: 'n' :: 'f' :: rest => some ((), rest)
  | 'n' :: 'a' :: 'n' :: rest => some ((), rest)
  | _ => none

/-- A floating-point number. -/
def readFloat? (text : List Char) : Option (Unit × List Char) :=
  (readDecimal? text).or (readSpecial? text)

end TestScribe.Toml

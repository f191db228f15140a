import TestScribe.Toml.Value
/-!
# TOML dates and times

A moment is a date, a time, or a date with a time and perhaps an offset.  Days
and times are checked to exist.
-/

namespace TestScribe.Toml

/-- A number of exactly so many digits, which has to lie between two bounds. -/
def readFixed? (width least greatest : Nat) (text : List Char) : Option (Nat × List Char) :=
  let digits := text.take width
  let number := Nat.ofDigitChars 10 digits 0
  if digits.length = width ∧ digits.all Char.isDigit ∧ least ≤ number ∧ number ≤ greatest then
    some (number, text.drop width)
  else
    none

/-- What follows one given character. -/
def afterCharacter? (expected : Char) : List Char → Option (List Char)
  | [] => none
  | c :: rest => if c == expected then some rest else none

/-- Has the year a leap day? -/
def isLeapYear (year : Nat) : Bool :=
  year % 4 == 0 && (year % 100 != 0 || year % 400 == 0)

/-- The number of days in a month. -/
def daysInMonth (year month : Nat) : Nat :=
  if month == 2 then (if isLeapYear year then 29 else 28)
  else if month == 4 || month == 6 || month == 9 || month == 11 then 30
  else 31

/-- What follows a date. -/
def afterDate? (text : List Char) : Option (List Char) := do
  let (year, rest) ← readFixed? 4 0 9999 text
  let (month, rest) ← readFixed? 2 1 12 (← afterCharacter? '-' rest)
  let (_, rest) ← readFixed? 2 1 (daysInMonth year month) (← afterCharacter? '-' rest)
  return rest

/-- What follows the fraction of a second, if there is one. -/
def afterFraction (text : List Char) : List Char :=
  match text with
  | '.' :: c :: rest => if c.isDigit then rest.dropWhile Char.isDigit else text
  | _ => text

/-- What follows a time. -/
def afterTime? (text : List Char) : Option (List Char) := do
  let (_, rest) ← readFixed? 2 0 23 text
  let (_, rest) ← readFixed? 2 0 59 (← afterCharacter? ':' rest)
  let (_, rest) ← readFixed? 2 0 60 (← afterCharacter? ':' rest)
  return afterFraction rest

/-- What follows an offset in hours and minutes. -/
def afterOffset? (text : List Char) : Option (List Char) := do
  let (_, rest) ← readFixed? 2 0 23 text
  let (_, rest) ← readFixed? 2 0 59 (← afterCharacter? ':' rest)
  return rest

/-- What follows the offset in front, if there is one. -/
def afterOptionalOffset (text : List Char) : List Char :=
  match text with
  | 'Z' :: rest => rest
  | 'z' :: rest => rest
  | '+' :: rest => (afterOffset? rest).getD text
  | '-' :: rest => (afterOffset? rest).getD text
  | _ => text

/-- What follows the time after a date, if there is one. -/
def afterOptionalTime (text : List Char) : List Char :=
  match text with
  | c :: rest =>
    if c == 'T' || c == 't' || c == ' ' then
      match afterTime? rest with
      | some rest => afterOptionalOffset rest
      | none => text
    else
      text
  | [] => []

/-- A moment. -/
def readMoment? (text : List Char) : Option (Unit × List Char) :=
  match afterDate? text with
  | some rest => some ((), afterOptionalTime rest)
  | none => (afterTime? text).map ((), ·)

end TestScribe.Toml

/-!
# JSON values

A value keeps what its text says: numbers keep their spelling, and an object
keeps its members in order, repeated names included.  A string literal may be
well formed and still spell no Unicode text, when it escapes half of a
surrogate pair or holds bytes that are not UTF-8; such a literal is kept as
`none`.
-/

namespace TestScribe.Json

/-- The text that a string literal spells, if it spells one. -/
abbrev Literal := Option String

/-- A JSON value. -/
inductive Value where
  | null
  | boolean (value : Bool)
  /-- A number as it is spelled. -/
  | number (spelling : String)
  | text (literal : Literal)
  | array (items : List Value)
  /-- An object, with its members in order. -/
  | object (members : List (Literal × Value))

/-- The string value of a text. -/
def Value.ofString (text : String) : Value :=
  .text (some text)

/-- The number value of a natural number. -/
def Value.ofNat (number : Nat) : Value :=
  .number number.repr

/-- The number value of an integer. -/
def Value.ofInt (number : Int) : Value :=
  .number (if number < 0 then "-" ++ number.natAbs.repr else number.natAbs.repr)

/-- The array value of a list of texts. -/
def Value.ofStrings (texts : List String) : Value :=
  .array (texts.map Value.ofString)

/-- The object value with these named members. -/
def Value.ofMembers (members : List (String × Value)) : Value :=
  .object (members.map fun (name, value) => (some name, value))

/-- The text of a string value. -/
def Value.string? : Value → Option String
  | .text literal => literal
  | _ => none

/-- The truth value of a boolean. -/
def Value.boolean? : Value → Option Bool
  | .boolean value => some value
  | _ => none

/-- The number of a value that is spelled with digits only and fits in 64 bits. -/
def Value.unsigned? : Value → Option Nat
  | .number spelling =>
    let digits := spelling.toList
    let number := Nat.ofDigitChars 10 digits 0
    if digits.all Char.isDigit ∧ digits ≠ [] ∧ number < Nat.pow 2 64 then some number else none
  | _ => none

/-- The texts of an array of strings. -/
def Value.strings? : Value → Option (List String)
  | .array items => items.mapM Value.string?
  | _ => none

/-- The values of the named fields of a record, `none` for a field that is not
there.  An object gives its fields by name: every member's name has to spell a
text, no field may be repeated, and other members are passed over.  An array
gives the fields in order and may leave off the last ones. -/
def Value.fields? (names : List String) : Value → Option (List (Option Value))
  | .object members =>
    if members.all (·.1.isSome) then
      names.mapM fun name =>
        match members.filter (·.1 == some name) with
        | [] => some none
        | [(_, value)] => some (some value)
        | _ => none
    else
      none
  | .array items =>
    if items.length ≤ names.length then
      some ((List.range names.length).map (items[·]?))
    else
      none
  | _ => none

end TestScribe.Json

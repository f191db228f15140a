import TestScribe.Text.CaseTable
import TestScribe.Text.CasedTable
import TestScribe.Text.InversionList
/-!
# Letter case

Full Unicode lower-casing of a text and full upper-casing of its first
character.  The capital sigma has two lower-case forms; which one is taken
depends on the letters around it.
-/

namespace TestScribe.Text

/-- Does the code point belong to the run? -/
def CaseRun.covers (run : CaseRun) (code : Nat) : Bool :=
  run.first ≤ code && code ≤ run.last && (code - run.first) % run.stride == 0

/-- Map one character: an expansion wins over a run, and a character that
neither table names stays as it is. -/
def mapCase (runs : List CaseRun) (expansions : List (Nat × List Nat))
    (character : Char) : List Char :=
  match expansions.lookup character.toNat with
  | some codes => codes.map Char.ofNat
  | none =>
    match runs.find? (·.covers character.toNat) with
    | some run => [Char.ofNat (character.toNat + run.distance).toNat]
    | none => [character]

/-- The lower-case form of one character, away from any context. -/
def lowerCharacter (character : Char) : List Char :=
  mapCase lowercaseRuns lowercaseExpansions character

/-- The upper-case form of one character. -/
def upperCharacter (character : Char) : List Char :=
  mapCase uppercaseRuns uppercaseExpansions character

/-- Is the first character that is not case-ignorable a cased one? -/
def meetsCasedLetter (text : List Char) : Bool :=
  match text.dropWhile fun c => inversionListContains caseIgnorableBoundaries c.toNat with
  | [] => false
  | c :: _ => inversionListContains casedBoundaries c.toNat

/-- Lower-case `text`, which stands after `before` (nearest character first).
A capital sigma becomes the final form when a cased letter precedes it and
none follows, case-ignorable characters set aside. -/
def lowercaseAfter : List Char → List Char → List Char
  | _, [] => []
  | before, c :: rest =>
    let lowered :=
      if c == 'Σ' then
        if meetsCasedLetter before && !meetsCasedLetter rest then ['ς'] else ['σ']
      else
        lowerCharacter c
    lowered ++ lowercaseAfter (c :: before) rest

/-- The text in lower case. -/
def lowercase (text : String) : String :=
  String.ofList (lowercaseAfter [] text.toList)

/-- The text with its first character in upper case and the rest unchanged. -/
def capitalize (text : String) : String :=
  match text.toList with
  | [] => ""
  | first :: rest => String.ofList (upperCharacter first ++ rest)

end TestScribe.Text

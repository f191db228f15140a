import TestScribe.Proofs.Header.Keyword
import TestScribe.Proofs.Source.Parameters

/-!
# Headings

A heading is the part that written headers have in common: a name and its
parameters in parentheses, joined with a comma and a space.  Reading a written
heading gives the name and the parameters back, and a heading holds no braces
and no line feeds.
-/

namespace TestScribe.Header

open TestScribe.Block TestScribe.Source TestScribe.Text

/-- White space that can stand in a line. -/
structure IsIndent
    (spaces : List Char) : Prop where
  white : ∀ character ∈ spaces, isWhitespace character = true
  unbroken : '\n' ∉ spaces

/-- An entry of a parameter list that does not disturb header and block. -/
structure IsParameter
    (text : List Char) : Prop
    extends IsEntry text where
  plain : ∀ character ∈ text, character ∉ [')', '{', '}', '\n']

instance (spaces : List Char) : Decidable (IsIndent spaces) :=
  decidable_of_iff
    (spaces.all isWhitespace = true ∧ '\n' ∉ spaces)
    ⟨fun ⟨white, unbroken⟩ => ⟨List.all_eq_true.mp white, unbroken⟩,
      fun ⟨white, unbroken⟩ => ⟨List.all_eq_true.mpr white, unbroken⟩⟩

instance (text : List Char) : Decidable (IsParameter text) :=
  decidable_of_iff
    (IsEntry text ∧
      text.all (· ∉ [')', '{', '}', '\n']) = true)
    ⟨fun ⟨isEntry, plain⟩ => ⟨isEntry, by simpa using plain⟩,
      fun ⟨isEntry, plain⟩ => ⟨isEntry, by simpa using plain⟩⟩

/-- A name with its parameters. -/
structure Heading where
  name : List Char
  parameters : List (List Char)
  isName : IsName name
  areParameters : ∀ parameter ∈ parameters, IsParameter parameter

theorem braceDelta_of_white
    {spaces : List Char}
    (white : ∀ character ∈ spaces, isWhitespace character = true) :
    braceDelta spaces = 0 := by
  apply braceDelta_eq_zero_of_not_mem
  · exact not_mem_of_white white (by decide)
  · exact not_mem_of_white white (by decide)

namespace Heading

variable (heading : Heading)

/-- The parameters as they are written between the parentheses. -/
def raw : List Char :=
  joinEntries heading.parameters

/-- The written heading with a text after it. -/
def followedBy
    (rest : List Char) :
    List Char :=
  heading.name ++ '(' :: (heading.raw ++ ')' :: rest)

/-- What the heading declares, with a return type. -/
def signature
    (returnType : Option String) :
    Signature where
  name := String.ofList heading.name
  parameters := heading.parameters.map String.ofList
  returnType := returnType

/-! ## Reading a heading -/

/-- Characters that disturb header or block are not in the parameters. -/
theorem not_mem_raw
    {character : Char}
    (special : character ∈ [')', '{', '}', '\n']) :
    character ∉ heading.raw := by
  intro member
  rcases exists_mem_of_mem_joinEntries member with
    ⟨entry, isEntry, inEntry⟩ | isComma | isSpace
  · exact
      (heading.areParameters entry isEntry).plain
        character inEntry special
  · rw [isComma] at special
    exact absurd special (by decide)
  · rw [isSpace] at special
    exact absurd special (by decide)

/-- A written heading is read as its name and its raw parameters. -/
theorem namedParameters?_followedBy
    (rest : List Char) :
    namedParameters? (heading.followedBy rest) =
      some ((heading.name, heading.raw), rest) :=
  namedParameters?_append [] heading.isName
    (List.forall_mem_nil _) (heading.not_mem_raw (by decide)) rest

/-- The name and the raw parameters declare what the heading does. -/
theorem ofRaw_eq_signature :
    Signature.ofRaw heading.name heading.raw =
      heading.signature none := by
  have entries :
      parameterEntries heading.raw = heading.parameters :=
    parameterEntries_joinEntries fun parameter member =>
      (heading.areParameters parameter member).toIsEntry
  rw [Signature.ofRaw, splitParameters, String.toList_ofList, entries]
  rfl

theorem followedBy_ne_nil
    (rest : List Char) :
    heading.followedBy rest ≠ [] := by
  simp [followedBy]

theorem beginsVisible_followedBy
    (rest : List Char) :
    BeginsVisible (heading.followedBy rest) :=
  heading.isName.beginsVisible_append _

theorem endsVisible_followedBy
    {rest : List Char}
    (nonempty : rest ≠ [])
    (ends : EndsVisible rest) :
    EndsVisible (heading.followedBy rest) := by
  have pieces :
      heading.followedBy rest =
        (heading.name ++ '(' :: (heading.raw ++ [')'])) ++ rest := by
    simp [followedBy]
  rw [pieces]
  exact ends.append nonempty _

/-! ## Characters of a heading -/

theorem braceDelta_followedBy
    (rest : List Char) :
    braceDelta (heading.followedBy rest) = braceDelta rest := by
  have rawDelta : braceDelta heading.raw = 0 :=
    braceDelta_eq_zero_of_not_mem
      (heading.not_mem_raw (by decide))
      (heading.not_mem_raw (by decide))
  have pieces :
      heading.followedBy rest =
        heading.name ++ (['('] ++ (heading.raw ++ ([')'] ++ rest))) := by
    simp [followedBy]
  rw [pieces]
  simp only [braceDelta_append, rawDelta,
    heading.isName.braceDelta_eq_zero]
  simp [braceDelta, braceStep]

theorem lineFeed_not_mem_followedBy
    {rest : List Char}
    (unbroken : '\n' ∉ rest) :
    '\n' ∉ heading.followedBy rest := by
  simp only [followedBy, List.mem_append, List.mem_cons, not_or]
  exact
    ⟨heading.isName.not_mem (by decide), by decide,
      heading.not_mem_raw (by decide), by decide, unbroken⟩

end Heading

end TestScribe.Header

import TestScribe.Proofs.Block.Braces
import TestScribe.Proofs.Header.Reading

/-!
# Written keywords

A keyword is written with one space after it.  Reading it leaves the text it
was written before, and it brings neither white space in front nor braces nor
line feeds.
-/

namespace TestScribe.Header

open TestScribe.Block TestScribe.Text

instance (name : List Char) : Decidable (IsName name) :=
  decidable_of_iff
    (name ≠ [] ∧ name.all isWordCharacter = true)
    ⟨fun ⟨nonempty, word⟩ => ⟨nonempty, List.all_eq_true.mp word⟩,
      fun ⟨nonempty, word⟩ => ⟨nonempty, List.all_eq_true.mpr word⟩⟩

/-! ## Characters of a name -/

section Name

variable
    {name : List Char}

theorem IsName.not_mem
    (isName : IsName name)
    {character : Char}
    (notWord : isWordCharacter character = false) :
    character ∉ name := by
  intro member
  have word := isName.word character member
  rw [notWord] at word
  exact nomatch word

theorem IsName.braceDelta_eq_zero
    (isName : IsName name) :
    braceDelta name = 0 :=
  braceDelta_eq_zero_of_not_mem
    (isName.not_mem (by decide)) (isName.not_mem (by decide))

end Name

/-! ## A keyword before a text -/

/-- The text with a keyword and a space before it. -/
def withKeyword
    (keyword : String)
    (text : List Char) :
    List Char :=
  keyword.toList ++ ([' '] ++ text)

/-- The text with a keyword and a space before it, if they are written. -/
def withOptionalKeyword
    (keyword : String)
    (written : Bool)
    (text : List Char) :
    List Char :=
  if written then withKeyword keyword text else text

section WithKeyword

variable
    {keyword other : String}
    {text : List Char}

theorem withKeyword_ne_nil
    (keyword : String)
    (text : List Char) :
    withKeyword keyword text ≠ [] := by
  simp [withKeyword]

theorem afterKeyword?_withKeyword
    (keyword : String)
    (visible : BeginsVisible text) :
    afterKeyword? keyword (withKeyword keyword text) = some text :=
  afterKeyword?_append keyword (List.cons_ne_nil ' ' [])
    (List.forall_mem_singleton.mpr (by decide)) visible

theorem beginsVisible_withKeyword
    (isName : IsName keyword.toList)
    (text : List Char) :
    BeginsVisible (withKeyword keyword text) :=
  isName.beginsVisible_append _

theorem endsVisible_withKeyword
    (keyword : String)
    (nonempty : text ≠ [])
    (ends : EndsVisible text) :
    EndsVisible (withKeyword keyword text) := by
  rw [withKeyword, ← List.append_assoc]
  exact ends.append nonempty _

/-- No keyword but the written one is read. -/
theorem afterKeyword?_append_of_ne
    (isName : IsName keyword.toList)
    (otherName : IsName other.toList)
    (differs : keyword ≠ other)
    {behind : List Char}
    (gap : ∀ character ∈ behind.head?, isWhitespace character = true) :
    afterKeyword? keyword (other.toList ++ behind) = none := by
  cases read : afterKeyword? keyword (other.toList ++ behind) with
  | none => rfl
  | some rest =>
      have same : keyword.toList = other.toList :=
        eq_of_afterKeyword?_append isName.solid otherName.solid gap read
      exact absurd (String.toList_inj.mp same) differs

theorem afterKeyword?_withKeyword_of_ne
    (isName : IsName keyword.toList)
    (otherName : IsName other.toList)
    (differs : keyword ≠ other)
    (text : List Char) :
    afterKeyword? keyword (withKeyword other text) = none :=
  afterKeyword?_append_of_ne isName otherName differs
    (forall_mem_head?_cons (by decide) text)

theorem braceDelta_withKeyword
    (isName : IsName keyword.toList)
    (text : List Char) :
    braceDelta (withKeyword keyword text) = braceDelta text := by
  have spaceDelta : braceDelta [' '] = 0 := by
    decide
  rw [withKeyword, braceDelta_append, braceDelta_append,
    isName.braceDelta_eq_zero, spaceDelta, Int.zero_add, Int.zero_add]

/-- A keyword brings nothing but word characters and a space. -/
theorem not_mem_withKeyword
    {character : Char}
    (isName : IsName keyword.toList)
    (notWord : isWordCharacter character = false)
    (notSpace : character ≠ ' ')
    (absent : character ∉ text) :
    character ∉ withKeyword keyword text := by
  simp only [withKeyword, List.mem_append, List.mem_singleton, not_or]
  exact ⟨isName.not_mem notWord, notSpace, absent⟩

/-! ## An optional keyword before a text -/

theorem withOptionalKeyword_ne_nil
    (written : Bool)
    (nonempty : text ≠ []) :
    withOptionalKeyword keyword written text ≠ [] := by
  cases written with
  | false => exact nonempty
  | true => exact withKeyword_ne_nil keyword text

/-- An optional keyword is read if it is written, before a text at which it is
not read. -/
theorem afterOptionalKeyword_withOptionalKeyword
    (written : Bool)
    (visible : BeginsVisible text)
    (absent : afterKeyword? keyword text = none) :
    afterOptionalKeyword keyword
        (withOptionalKeyword keyword written text) =
      text := by
  cases written with
  | false =>
      exact congrArg (·.getD text) absent
  | true =>
      rw [withOptionalKeyword, if_pos rfl, afterOptionalKeyword,
        afterKeyword?_withKeyword keyword visible, Option.getD_some]

theorem beginsVisible_withOptionalKeyword
    (isName : IsName keyword.toList)
    (written : Bool)
    (visible : BeginsVisible text) :
    BeginsVisible (withOptionalKeyword keyword written text) := by
  cases written with
  | false => exact visible
  | true => exact beginsVisible_withKeyword isName text

theorem endsVisible_withOptionalKeyword
    (written : Bool)
    (nonempty : text ≠ [])
    (ends : EndsVisible text) :
    EndsVisible (withOptionalKeyword keyword written text) := by
  cases written with
  | false => exact ends
  | true => exact endsVisible_withKeyword keyword nonempty ends

theorem braceDelta_withOptionalKeyword
    (isName : IsName keyword.toList)
    (written : Bool)
    (text : List Char) :
    braceDelta (withOptionalKeyword keyword written text) =
      braceDelta text := by
  cases written with
  | false => rfl
  | true => exact braceDelta_withKeyword isName text

theorem not_mem_withOptionalKeyword
    {character : Char}
    (isName : IsName keyword.toList)
    (notWord : isWordCharacter character = false)
    (notSpace : character ≠ ' ')
    (written : Bool)
    (absent : character ∉ text) :
    character ∉ withOptionalKeyword keyword written text := by
  cases written with
  | false => exact absent
  | true => exact not_mem_withKeyword isName notWord notSpace absent

end WithKeyword

end TestScribe.Header

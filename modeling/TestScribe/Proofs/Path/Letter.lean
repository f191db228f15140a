import TestScribe.Path.Letter
import TestScribe.Proofs.Text.Utf8

/-!
# What the letters of paths have in common

A text stands in a path letter by letter, only a slash is written as a slash and
only a dot as a dot, and the text can be told from what stands there.  What is
shown of a name has no slash unless the name has one.  Both characters and bytes
are letters of this kind.
-/

namespace TestScribe.Path

open TestScribe.Text

/-! ## Characters -/

@[simp]
theorem slash_char :
    (slash : Char) = '/' :=
  rfl

@[simp]
theorem dot_char :
    (dot : Char) = '.' :=
  rfl

@[simp]
theorem ofText_char
    (text : List Char) :
    (ofText text : List Char) = text :=
  rfl

@[simp]
theorem shown_char
    (name : List Char) :
    shown name = name :=
  rfl

/-! ## Laws -/

/-- How texts are written with the letters of paths, and names shown. -/
class LawfulPathLetter
    (α : Type)
    [PathLetter α] : Prop where
  ofText_nil : (ofText [] : List α) = []
  ofText_cons :
    ∀ (character : Char) (text : List Char),
      (ofText (character :: text) : List α) =
        ofText [character] ++ ofText text
  ofText_slash : (ofText ['/'] : List α) = [slash]
  ofText_dot : (ofText ['.'] : List α) = [dot]
  slash_not_mem :
    ∀ {character : Char},
      character ≠ '/' → (slash : α) ∉ ofText [character]
  dot_not_mem :
    ∀ {character : Char},
      character ≠ '.' → (dot : α) ∉ ofText [character]
  shown_ofText :
    ∀ text : List Char, shown (ofText text : List α) = text
  slash_mem_of_mem_shown :
    ∀ {name : List α}, '/' ∈ shown name → slash ∈ name

export LawfulPathLetter
  (ofText_nil ofText_cons ofText_slash ofText_dot shown_ofText
    slash_mem_of_mem_shown)

instance : LawfulPathLetter Char where
  ofText_nil := rfl
  ofText_cons _ _ := rfl
  ofText_slash := rfl
  ofText_dot := rfl
  slash_not_mem differs member :=
    differs (List.mem_singleton.mp member).symm
  dot_not_mem differs member :=
    differs (List.mem_singleton.mp member).symm
  shown_ofText _ := rfl
  slash_mem_of_mem_shown member := member

/-- The bytes of a text are those of its UTF-8 form. -/
theorem ofText_toList
    (text : String) :
    (ofText text.toList : List UInt8) = text.toUTF8.data.toList :=
  (data_toUTF8 text).symm

/-- The byte of a character of ASCII stands for that character only. -/
theorem not_mem_ofText_singleton
    {byte : UInt8}
    {ascii character : Char}
    (isAscii : byte.toNat = ascii.toNat)
    (small : byte.toNat < 0x80)
    (differs : character ≠ ascii) :
    byte ∉ (ofText [character] : List UInt8) := by
  intro member
  replace member : byte ∈ String.utf8EncodeChar character := by
    simpa [ofText] using member
  have same := toNat_eq_of_mem_utf8EncodeChar member small
  exact differs (Char.toNat_inj.mp (same.symm.trans isAscii))

instance : LawfulPathLetter UInt8 where
  ofText_nil := rfl
  ofText_cons character text := by
    simp [ofText]
  ofText_slash := by decide
  ofText_dot := by decide
  slash_not_mem := not_mem_ofText_singleton (by decide) (by decide)
  dot_not_mem := not_mem_ofText_singleton (by decide) (by decide)
  shown_ofText text := by
    have whole := decodeLenient_toUTF8 (String.ofList text)
    have bytes := ofText_toList (String.ofList text)
    rw [String.toList_ofList] at bytes
    change
      (decodeLenient ⟨(ofText text : List UInt8).toArray⟩).toList = text
    rw [bytes, Array.toArray_toList, whole, String.toList_ofList]
  slash_mem_of_mem_shown member := by
    rcases
      exists_byte_of_mem_decodeLenient member (by decide)
        (by decide) with
      ⟨byte, inName, same⟩
    have isSlash : byte = slash := UInt8.toNat_inj.mp same
    exact isSlash ▸ inName

/-! ## Texts in a path -/

section Lawful

variable
    {α : Type}
    [PathLetter α]
    [LawfulPathLetter α]
    {text first second : List Char}

theorem ofText_append
    (first second : List Char) :
    (ofText (first ++ second) : List α) =
      ofText first ++ ofText second := by
  induction first with
  | nil => rw [ofText_nil, List.nil_append, List.nil_append]
  | cons character first ih =>
      rw [List.cons_append, ofText_cons, ih,
        ofText_cons character first,
        List.append_assoc]

theorem ofText_slash_cons
    (text : List Char) :
    (ofText ('/' :: text) : List α) = slash :: ofText text := by
  rw [ofText_cons, ofText_slash,
    List.singleton_append]

theorem ofText_dot_cons
    (text : List Char) :
    (ofText ('.' :: text) : List α) = dot :: ofText text := by
  rw [ofText_cons, ofText_dot,
    List.singleton_append]

/-- A text can be told from what stands in a path. -/
theorem ofText_inj :
    (ofText first : List α) = ofText second ↔ first = second := by
  constructor
  · intro same
    rw [← shown_ofText (α := α) first, same, shown_ofText]
  · rintro rfl
    rfl

theorem ofText_eq_nil_iff :
    (ofText text : List α) = [] ↔ text = [] := by
  rw [← ofText_nil, ofText_inj]

theorem not_mem_ofText
    {letter : α}
    (notIn : ∀ character ∈ text, letter ∉ ofText [character]) :
    letter ∉ ofText text := by
  induction text with
  | nil =>
      rw [ofText_nil]
      exact List.not_mem_nil
  | cons character text ih =>
      rw [List.forall_mem_cons] at notIn
      rw [ofText_cons, List.mem_append, not_or]
      exact ⟨notIn.1, ih notIn.2⟩

/-- A text without slashes is written without slashes. -/
theorem slash_not_mem_ofText
    (unbroken : '/' ∉ text) :
    (slash : α) ∉ ofText text :=
  not_mem_ofText fun _ member =>
    LawfulPathLetter.slash_not_mem (ne_of_mem_of_not_mem member unbroken)

/-- A text without dots is written without dots. -/
theorem dot_not_mem_ofText
    (dotless : '.' ∉ text) :
    (dot : α) ∉ ofText text :=
  not_mem_ofText fun _ member =>
    LawfulPathLetter.dot_not_mem (ne_of_mem_of_not_mem member dotless)

end Lawful

end TestScribe.Path

import Mathlib.Data.List.Infix
import TestScribe.Header.Method
import TestScribe.Proofs.Header.Keyword

/-!
# Written modifiers

Modifiers are keywords out of a list, each with white space after it.  Where one
of them is written it is the one that is read, and where none is written none is
read.  So a row of keyword modifiers is read to its end, and the search for a
method passes over white space and over keywords in which none begins.
-/

namespace TestScribe.Header

open TestScribe.Block TestScribe.Source TestScribe.Text

/-! ## One of several keywords -/

section AnyKeyword

variable
    {keywords : List String}

theorem afterAnyKeyword?_of_white
    (areNames : ∀ keyword ∈ keywords, IsName keyword.toList)
    {character : Char}
    (white : isWhitespace character = true)
    (rest : List Char) :
    afterAnyKeyword? keywords (character :: rest) = none := by
  rw [afterAnyKeyword?, List.findSome?_eq_none_iff]
  intro keyword member
  have isName := areNames keyword member
  rcases List.exists_cons_of_ne_nil isName.nonempty with
    ⟨initial, others, keywordEq⟩
  have isWord : isWordCharacter initial = true :=
    isName.word initial (keywordEq ▸ List.mem_cons_self)
  have differs : initial ≠ character := by
    intro same
    rw [same, isWordCharacter_eq_false_of_isWhitespace white] at isWord
    exact nomatch isWord
  exact
    afterKeyword?_cons_of_ne
      (congrArg List.head? keywordEq) differs rest

/-- The written keyword is the one that is read. -/
theorem afterAnyKeyword?_append
    (areNames : ∀ keyword ∈ keywords, IsName keyword.toList)
    {keyword : String}
    (member : keyword ∈ keywords)
    {spaces text : List Char}
    (nonempty : spaces ≠ [])
    (white : ∀ character ∈ spaces, isWhitespace character = true)
    (visible : BeginsVisible text) :
    afterAnyKeyword? keywords (keyword.toList ++ (spaces ++ text)) =
      some text := by
  have isName := areNames keyword member
  have gap :
      ∀ character ∈ (spaces ++ text).head?,
        isWhitespace character = true :=
    forall_mem_head?_append nonempty white text
  rw [afterAnyKeyword?]
  induction keywords with
  | nil => exact nomatch member
  | cons first others ih =>
      rw [List.findSome?_cons]
      by_cases same : first = keyword
      · rw [same, afterKeyword?_append keyword nonempty white visible]
      · have firstName := areNames first List.mem_cons_self
        rw [afterKeyword?_append_of_ne firstName isName same gap]
        apply ih
        · intro other otherMember
          exact areNames other (List.mem_cons_of_mem _ otherMember)
        · rcases List.mem_cons.mp member with isFirst | later
          · exact absurd isFirst.symm same
          · exact later

/-- No keyword is read at a visible run that is none of them. -/
theorem afterAnyKeyword?_of_not_mem
    (areNames : ∀ keyword ∈ keywords, IsName keyword.toList)
    {token behind : List Char}
    (solid : ∀ character ∈ token, isWhitespace character = false)
    (gap : ∀ character ∈ behind.head?, isWhitespace character = true)
    (notKeyword : String.ofList token ∉ keywords) :
    afterAnyKeyword? keywords (token ++ behind) = none := by
  rw [afterAnyKeyword?, List.findSome?_eq_none_iff]
  intro keyword member
  cases read : afterKeyword? keyword (token ++ behind) with
  | none => rfl
  | some rest =>
      have same : keyword.toList = token :=
        eq_of_afterKeyword?_append
          (areNames keyword member).solid solid gap read
      rw [← same, String.ofList_toList] at notKeyword
      exact absurd member notKeyword

/-- No keyword is read at a name that goes on with something else than white
space. -/
theorem afterAnyKeyword?_of_name
    (areNames : ∀ keyword ∈ keywords, IsName keyword.toList)
    {name : List Char}
    (isName : IsName name)
    {stop : Char}
    (outside : isWordCharacter stop = false)
    (visible : isWhitespace stop = false)
    (rest : List Char) :
    afterAnyKeyword? keywords (name ++ stop :: rest) = none := by
  rw [afterAnyKeyword?, List.findSome?_eq_none_iff]
  intro keyword member
  cases read : afterKeyword? keyword (name ++ stop :: rest) with
  | none => rfl
  | some behind =>
      rw [afterKeyword?, Option.bind_eq_some_iff] at read
      rcases read with ⟨after, here, gapRead⟩
      have gap := isWhitespace_of_afterGap? gapRead
      have boundary :
          ∀ character ∈ (stop :: rest).head?,
            isWordCharacter character = false := by
        apply forall_mem_head?_cons
        exact outside
      have nameRead := word?_append isName boundary
      rw [afterText?_eq_some_iff.mp here,
        word?_append (areNames keyword member)
          fun character isFirst =>
            isWordCharacter_eq_false_of_isWhitespace
              (gap character isFirst),
        Option.some.injEq, Prod.mk.injEq] at nameRead
      have white := gap stop (nameRead.2 ▸ rfl)
      rw [visible] at white
      exact absurd white Bool.false_ne_true

end AnyKeyword

theorem isName_of_mem_accessModifiers :
    ∀ keyword ∈ accessModifiers, IsName keyword.toList := by
  decide

theorem isName_of_mem_keywordModifiers :
    ∀ keyword ∈ keywordModifiers, IsName keyword.toList := by
  decide

/-- No keyword modifier ends in an access modifier. -/
theorem ofList_not_mem_accessModifiers_of_keyword :
    ∀ keyword ∈ keywordModifiers, ∀ behind ∈ keyword.toList.tails,
      String.ofList behind ∉ accessModifiers := by
  decide

/-- No access modifier ends in another one. -/
theorem ofList_not_mem_accessModifiers_of_modifier :
    ∀ modifier ∈ accessModifiers, ∀ behind ∈ modifier.toList.tails,
      behind ≠ modifier.toList →
        String.ofList behind ∉ accessModifiers := by
  decide

/-- A method is searched behind the white space in front. -/
theorem leftmost?_methodHeader?_of_white
    {spaces : List Char}
    (white : ∀ character ∈ spaces, isWhitespace character = true)
    (text : List Char) :
    leftmost? methodHeader? (spaces ++ text) =
      leftmost? methodHeader? text := by
  apply leftmost?_append
  intro character member rest
  rw [methodHeader?,
    afterAnyKeyword?_of_white isName_of_mem_accessModifiers
      (white character member)]
  rfl

/-- A method has an access modifier on its line. -/
theorem exists_modifier_of_method?
    {line : Line}
    {signature : Signature}
    (declared : method? line = some signature) :
    ∃ modifier ∈ accessModifiers, modifier.toList <:+: line := by
  rcases exists_suffix_of_leftmost? declared with
    ⟨before, text, rfl, success⟩
  rw [methodHeader?, Option.bind_eq_bind, Option.bind_eq_some_iff]
    at success
  rcases success with ⟨behind, modifierRead, -⟩
  rcases List.exists_of_findSome?_eq_some modifierRead with
    ⟨modifier, member, read⟩
  have inFront : modifier.toList <+: text := prefix_of_afterKeyword? read
  exact
    ⟨modifier, member,
      inFront.isInfix.trans (List.suffix_append before text).isInfix⟩

/-! ## Keywords with white space after them -/

/-- A keyword and the white space that is written after it. -/
structure SpacedKeyword where
  keyword : String
  spaces : List Char
  nonempty : spaces ≠ []
  blank : isBlank spaces = true

namespace SpacedKeyword

variable
    (spaced : SpacedKeyword)
    {text : List Char}

/-- A keyword with one space after it. -/
def ofKeyword
    (keyword : String) :
    SpacedKeyword where
  keyword := keyword
  spaces := [' ']
  nonempty := List.cons_ne_nil _ _
  blank := rfl

/-- The text with the keyword before it. -/
def before
    (text : List Char) :
    List Char :=
  spaced.keyword.toList ++ (spaced.spaces ++ text)

theorem white :
    ∀ character ∈ spaced.spaces, isWhitespace character = true :=
  (isBlank_iff _).mp spaced.blank

theorem gap_after_keyword
    (text : List Char) :
    ∀ character ∈ (spaced.spaces ++ text).head?,
      isWhitespace character = true :=
  forall_mem_head?_append spaced.nonempty spaced.white text

/-- No method begins in the keyword, so it is searched behind it. -/
theorem leftmost?_methodHeader?_before
    (fails :
      ∀ behind ∈ spaced.keyword.toList.tails, behind ≠ [] →
        methodHeader? (behind ++ (spaced.spaces ++ text)) = none) :
    leftmost? methodHeader? (spaced.before text) =
      leftmost? methodHeader? text := by
  rw [before, leftmost?_append_of_suffixes,
    leftmost?_methodHeader?_of_white spaced.white]
  intro behind isSuffix
  exact fails behind ((List.mem_tails _ _).mpr isSuffix)

/-- No method begins at a part of the keyword that is no access modifier. -/
theorem methodHeader?_eq_none
    (isName : IsName spaced.keyword.toList)
    {behind : List Char}
    (isTail : behind ∈ spaced.keyword.toList.tails)
    (notModifier : String.ofList behind ∉ accessModifiers) :
    methodHeader? (behind ++ (spaced.spaces ++ text)) = none := by
  have solid :
      ∀ character ∈ behind, isWhitespace character = false :=
    fun character member =>
      isName.solid character
        (((List.mem_tails _ _).mp isTail).subset member)
  rw [methodHeader?,
    afterAnyKeyword?_of_not_mem isName_of_mem_accessModifiers solid
      (spaced.gap_after_keyword text) notModifier]
  rfl

end SpacedKeyword

/-! ## A row of keywords -/

/-- The text with several keywords before it, each with its white space. -/
def withSpaced
    (keywords : List SpacedKeyword)
    (text : List Char) :
    List Char :=
  keywords.foldr SpacedKeyword.before text

section WithSpaced

variable
    {keywords : List SpacedKeyword}
    {text : List Char}

theorem length_le_length_withSpaced
    (keywords : List SpacedKeyword)
    (text : List Char) :
    keywords.length ≤ (withSpaced keywords text).length := by
  induction keywords with
  | nil => exact Nat.zero_le _
  | cons spaced others ih =>
      have spacesLength := List.length_pos_iff.mpr spaced.nonempty
      have longer :
          (withSpaced others text).length <
            (withSpaced (spaced :: others) text).length := by
        simp only [withSpaced, List.foldr_cons, SpacedKeyword.before,
          List.length_append]
        omega
      exact Nat.lt_of_le_of_lt ih longer

/-- The row begins with the text itself or with a keyword. -/
theorem head?_withSpaced
    {property : Char → Prop}
    (ofWord :
      ∀ character, isWordCharacter character = true → property character)
    (areNames : ∀ spaced ∈ keywords, IsName spaced.keyword.toList)
    (holds : ∀ character ∈ text.head?, property character) :
    ∀ character ∈ (withSpaced keywords text).head?,
      property character := by
  cases keywords with
  | nil => exact holds
  | cons spaced others =>
      have isName := areNames spaced List.mem_cons_self
      exact
        forall_mem_head?_append isName.nonempty
          (fun character member =>
            ofWord character (isName.word character member)) _

theorem beginsVisible_withSpaced
    (areNames : ∀ spaced ∈ keywords, IsName spaced.keyword.toList)
    (visible : BeginsVisible text) :
    BeginsVisible (withSpaced keywords text) :=
  head?_withSpaced
    (fun _ => isWhitespace_eq_false_of_isWordCharacter) areNames visible

/--
All written keywords are read before the member after them, which does not
begin with another one.
-/
theorem modifiedMember?_withSpaced
    {signature : Signature}
    {rounds : Nat}
    (areKeywords :
      ∀ spaced ∈ keywords, spaced.keyword ∈ keywordModifiers)
    (visible : BeginsVisible text)
    (stops : afterAnyKeyword? keywordModifiers text = none)
    (bare : member? text = some signature)
    (enough : keywords.length ≤ rounds) :
    modifiedMember? rounds (withSpaced keywords text) =
      some signature := by
  induction keywords generalizing rounds with
  | nil =>
      cases rounds with
      | zero => exact bare
      | succ rounds =>
          rw [withSpaced, List.foldr_nil, modifiedMember?, stops]
          exact bare
  | cons spaced others ih =>
      cases rounds with
      | zero => exact nomatch enough
      | succ rounds =>
          have othersKeywords :
              ∀ other ∈ others, other.keyword ∈ keywordModifiers :=
            fun other member =>
              areKeywords other (List.mem_cons_of_mem _ member)
          have othersVisible :
              BeginsVisible (withSpaced others text) :=
            beginsVisible_withSpaced
              (fun other member =>
                isName_of_mem_keywordModifiers _
                  (othersKeywords other member))
              visible
          have read :
              afterAnyKeyword? keywordModifiers
                  (withSpaced (spaced :: others) text) =
                some (withSpaced others text) :=
            afterAnyKeyword?_append isName_of_mem_keywordModifiers
              (areKeywords spaced List.mem_cons_self) spaced.nonempty
              spaced.white othersVisible
          have later :=
            ih othersKeywords (Nat.le_of_succ_le_succ enough)
          rw [modifiedMember?, read]
          simp only [later, Option.some_or]

end WithSpaced

/-! ## A row of keywords with one space after each -/

/-- The text with several keywords before it, a space after each. -/
def withKeywords
    (keywords : List String)
    (text : List Char) :
    List Char :=
  keywords.foldr withKeyword text

section WithKeywords

variable
    {keywords : List String}
    {text : List Char}

theorem withKeywords_eq_withSpaced
    (keywords : List String)
    (text : List Char) :
    withKeywords keywords text =
      withSpaced (keywords.map SpacedKeyword.ofKeyword) text := by
  rw [withSpaced, List.foldr_map]
  rfl

theorem braceDelta_withKeywords
    (areNames : ∀ keyword ∈ keywords, IsName keyword.toList) :
    braceDelta (withKeywords keywords text) = braceDelta text := by
  induction keywords with
  | nil => rfl
  | cons keyword others ih =>
      have othersDelta :=
        ih fun other member =>
          areNames other (List.mem_cons_of_mem _ member)
      rw [← othersDelta]
      exact
        braceDelta_withKeyword
          (areNames keyword List.mem_cons_self) _

theorem not_mem_withKeywords
    {character : Char}
    (areNames : ∀ keyword ∈ keywords, IsName keyword.toList)
    (notWord : isWordCharacter character = false)
    (notSpace : character ≠ ' ')
    (absent : character ∉ text) :
    character ∉ withKeywords keywords text := by
  induction keywords with
  | nil => exact absent
  | cons keyword others ih =>
      apply not_mem_withKeyword _ notWord notSpace
      · apply ih
        intro other member
        exact areNames other (List.mem_cons_of_mem _ member)
      · exact areNames keyword List.mem_cons_self

end WithKeywords

end TestScribe.Header

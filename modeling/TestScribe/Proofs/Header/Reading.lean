import Mathlib.Data.List.Basic
import Mathlib.Data.List.TakeDrop
import TestScribe.Header.Reading
import TestScribe.Proofs.Text.Whitespace

/-!
# What the readers of header pieces find

Each reader is described by the texts it reads: a literal text and what follows
it, white space up to something visible, a name up to a character that may not
stand in one, raw parameters up to the first closing parenthesis.  The search
for the leftmost success finds the reader's answer at the first position where
it has one.
-/

namespace TestScribe.Header

open TestScribe.Text

/-! ## The leftmost success -/

section Leftmost

variable
    {α : Type}
    {reader : List Char → Option α}

/-- The search answers what the reader finds at some position. -/
theorem exists_suffix_of_leftmost?
    {text : List Char}
    {found : α}
    (success : leftmost? reader text = some found) :
    ∃ before rest,
      text = before ++ rest ∧ reader rest = some found := by
  induction text with
  | nil => exact ⟨[], [], rfl, success⟩
  | cons character text ih =>
      rw [leftmost?] at success
      split at success
      · next here =>
        exact ⟨[], character :: text, rfl, here.trans success⟩
      · rcases ih success with ⟨before, rest, rfl, there⟩
        exact ⟨character :: before, rest, rfl, there⟩

/-- A success at the front is the leftmost one. -/
theorem leftmost?_of_front
    {text : List Char}
    {found : α}
    (success : reader text = some found) :
    leftmost? reader text = some found := by
  cases text with
  | nil => exact success
  | cons character text => rw [leftmost?, success]

/-- A text is passed over when the reader succeeds nowhere in it. -/
theorem leftmost?_append_of_suffixes
    {before text : List Char}
    (fails :
      ∀ behind, behind <:+ before → behind ≠ [] →
        reader (behind ++ text) = none) :
    leftmost? reader (before ++ text) = leftmost? reader text := by
  induction before with
  | nil => rfl
  | cons character before ih =>
      have here :=
        fails _ List.suffix_rfl (List.cons_ne_nil character before)
      rw [List.cons_append] at here
      rw [List.cons_append, leftmost?, here]
      exact ih fun behind isSuffix =>
        fails behind (isSuffix.trans (List.suffix_cons character before))

/-- Characters at which the reader never succeeds are passed over. -/
theorem leftmost?_append
    {before : List Char}
    (fails :
      ∀ character ∈ before, ∀ rest, reader (character :: rest) = none)
    (text : List Char) :
    leftmost? reader (before ++ text) = leftmost? reader text := by
  apply leftmost?_append_of_suffixes
  intro behind isSuffix nonempty
  rcases List.exists_cons_of_ne_nil nonempty with ⟨first, others, rfl⟩
  exact fails first (isSuffix.subset List.mem_cons_self) (others ++ text)

/-- The search finds what the reader finds at the first position where it
succeeds. -/
theorem leftmost?_eq_some_iff
    {text : List Char}
    {found : α} :
    leftmost? reader text = some found ↔
      ∃ position,
        reader (text.drop position) = some found ∧
          ∀ earlier < position, reader (text.drop earlier) = none := by
  induction text with
  | nil =>
      simp only [leftmost?, List.drop_nil]
      constructor
      · intro success
        exact ⟨0, success, nofun⟩
      · rintro ⟨position, success, -⟩
        exact success
  | cons character text ih =>
      rw [leftmost?]
      split
      · next other success =>
        constructor
        · intro same
          exact ⟨0, success.trans same, nofun⟩
        · rintro ⟨position, there, first⟩
          cases position with
          | zero => exact success.symm.trans there
          | succ position =>
              have failure := first 0 (Nat.succ_pos position)
              rw [List.drop_zero, success] at failure
              exact nomatch failure
      · next failure =>
        rw [ih]
        constructor
        · rintro ⟨position, success, first⟩
          refine ⟨position + 1, success, ?_⟩
          intro earlier before
          cases earlier with
          | zero => exact failure
          | succ earlier =>
              exact first earlier (Nat.lt_of_succ_lt_succ before)
        · rintro ⟨position, success, first⟩
          cases position with
          | zero =>
              rw [List.drop_zero, failure] at success
              exact nomatch success
          | succ position =>
              refine ⟨position, success, ?_⟩
              intro earlier before
              exact first (earlier + 1) (Nat.succ_lt_succ before)

end Leftmost

/-! ## Literal texts and white space -/

/-- A literal text is read exactly where it stands. -/
theorem afterText?_eq_some_iff
    {literal : String}
    {text rest : List Char} :
    afterText? literal text = some rest ↔
      text = literal.toList ++ rest := by
  rw [afterText?, List.isPrefixOf?_eq_some_iff_append_eq, eq_comm]

/-- White space up to something visible is read as a whole. -/
theorem afterSpaces_append
    {spaces text : List Char}
    (white : ∀ character ∈ spaces, isWhitespace character = true)
    (visible : BeginsVisible text) :
    afterSpaces (spaces ++ text) = text :=
  dropWhile_append_of_boundary white visible

theorem afterGap?_append
    {spaces text : List Char}
    (nonempty : spaces ≠ [])
    (white : ∀ character ∈ spaces, isWhitespace character = true)
    (visible : BeginsVisible text) :
    afterGap? (spaces ++ text) = some text := by
  rcases List.exists_cons_of_ne_nil nonempty with ⟨first, others, rfl⟩
  have firstWhite := white first List.mem_cons_self
  rw [List.cons_append, afterGap?, if_pos firstWhite,
    afterSpaces_append
      (fun character member =>
        white character (List.mem_cons_of_mem _ member))
      visible]

/-- A keyword is read with the gap after it. -/
theorem afterKeyword?_append
    (keyword : String)
    {spaces text : List Char}
    (nonempty : spaces ≠ [])
    (white : ∀ character ∈ spaces, isWhitespace character = true)
    (visible : BeginsVisible text) :
    afterKeyword? keyword (keyword.toList ++ (spaces ++ text)) =
      some text := by
  rw [afterKeyword?, afterText?_eq_some_iff.mpr rfl, Option.bind_some,
    afterGap?_append nonempty white visible]

theorem prefix_of_afterKeyword?
    {keyword : String}
    {text rest : List Char}
    (success : afterKeyword? keyword text = some rest) :
    keyword.toList <+: text := by
  rw [afterKeyword?, Option.bind_eq_some_iff] at success
  rcases success with ⟨behind, here, -⟩
  rw [afterText?_eq_some_iff.mp here]
  exact List.prefix_append _ _

/-- A keyword is not read where another character than its first one stands. -/
theorem afterKeyword?_cons_of_ne
    {keyword : String}
    {initial first : Char}
    (begins : keyword.toList.head? = some initial)
    (differs : initial ≠ first)
    (rest : List Char) :
    afterKeyword? keyword (first :: rest) = none := by
  cases read : afterKeyword? keyword (first :: rest) with
  | none => rfl
  | some behind =>
      rcases prefix_of_afterKeyword? read with ⟨after, same⟩
      rcases List.head?_eq_some_iff.mp begins with ⟨others, keywordEq⟩
      rw [keywordEq, List.cons_append, List.cons.injEq] at same
      exact absurd same.1 differs

theorem isWhitespace_of_afterGap?
    {text rest : List Char}
    (success : afterGap? text = some rest) :
    ∀ character ∈ text.head?, isWhitespace character = true := by
  cases text with
  | nil => exact nomatch success
  | cons first text =>
      intro character isFirst
      have same : first = character := Option.some.inj isFirst
      subst same
      rw [afterGap?] at success
      split at success
      · next white => exact white
      · exact nomatch success

/-- A keyword that is read at a run of visible characters is the whole run. -/
theorem eq_of_afterKeyword?_append
    {keyword : String}
    {token behind rest : List Char}
    (keywordSolid :
      ∀ character ∈ keyword.toList, isWhitespace character = false)
    (tokenSolid : ∀ character ∈ token, isWhitespace character = false)
    (gap : ∀ character ∈ behind.head?, isWhitespace character = true)
    (success : afterKeyword? keyword (token ++ behind) = some rest) :
    keyword.toList = token := by
  rw [afterKeyword?, Option.bind_eq_some_iff] at success
  rcases success with ⟨after, here, gapRead⟩
  have afterGap := isWhitespace_of_afterGap? gapRead
  have same : token ++ behind = keyword.toList ++ after :=
    afterText?_eq_some_iff.mp here
  calc
    keyword.toList =
        (keyword.toList ++ after).takeWhile (!isWhitespace ·) :=
      (takeWhile_visible_append keywordSolid afterGap).symm
    _ = (token ++ behind).takeWhile (!isWhitespace ·) := by
      rw [same]
    _ = token := takeWhile_visible_append tokenSolid gap

/-! ## Names and parameter lists -/

/-- A name is made of word characters and has at least one. -/
structure IsName
    (name : List Char) : Prop where
  nonempty : name ≠ []
  word : ∀ character ∈ name, isWordCharacter character = true

theorem IsName.solid
    {name : List Char}
    (isName : IsName name) :
    ∀ character ∈ name, isWhitespace character = false := by
  intro character member
  exact
    isWhitespace_eq_false_of_isWordCharacter
      (isName.word character member)

theorem IsName.beginsVisible_append
    {name : List Char}
    (isName : IsName name)
    (rest : List Char) :
    BeginsVisible (name ++ rest) :=
  beginsVisible_append_of_solid isName.nonempty isName.solid rest

theorem IsName.endsVisible_append
    {name : List Char}
    (isName : IsName name)
    (before : List Char) :
    EndsVisible (before ++ name) := by
  refine EndsVisible.append ?_ isName.nonempty before
  intro character isLast
  exact isName.solid character (List.mem_of_getLast? isLast)

/-- A name is read up to the first character that may not stand in it. -/
theorem word?_append
    {name rest : List Char}
    (isName : IsName name)
    (boundary :
      ∀ character ∈ rest.head?, isWordCharacter character = false) :
    word? (name ++ rest) = some (name, rest) := by
  rw [word?, List.span_eq_takeWhile_dropWhile,
    takeWhile_append_of_boundary isName.word boundary,
    dropWhile_append_of_boundary isName.word boundary]
  rcases List.exists_cons_of_ne_nil isName.nonempty with
    ⟨first, others, rfl⟩
  rfl

/-- Raw parameters are read up to the first closing parenthesis. -/
theorem parenthesized?_append
    {raw : List Char}
    (noClosing : ')' ∉ raw)
    (rest : List Char) :
    parenthesized? ('(' :: (raw ++ ')' :: rest)) = some (raw, rest) := by
  have kept : ∀ character ∈ raw, (character != ')') = true := by
    intro character member
    rw [bne_iff_ne]
    intro isClosing
    exact noClosing (isClosing ▸ member)
  have boundary :
      ∀ character ∈ (')' :: rest).head?, (character != ')') = false :=
    forall_mem_head?_cons (by decide) rest
  simp only [parenthesized?, takeWhile_append_of_boundary kept boundary,
    dropWhile_append_of_boundary kept boundary]

/-- A name and its parameter list are read with white space between them. -/
theorem namedParameters?_append
    {name raw : List Char}
    (spaces : List Char)
    (isName : IsName name)
    (white : ∀ character ∈ spaces, isWhitespace character = true)
    (noClosing : ')' ∉ raw)
    (rest : List Char) :
    namedParameters?
        (name ++ (spaces ++ '(' :: (raw ++ ')' :: rest))) =
      some ((name, raw), rest) := by
  have boundary :
      ∀ character ∈ (spaces ++ '(' :: (raw ++ ')' :: rest)).head?,
        isWordCharacter character = false := by
    cases spaces with
    | nil => exact forall_mem_head?_cons (by decide) _
    | cons first spaces =>
        apply forall_mem_head?_cons
        exact
          isWordCharacter_eq_false_of_isWhitespace
            (white first List.mem_cons_self)
  have openingVisible :
      BeginsVisible ('(' :: (raw ++ ')' :: rest)) :=
    beginsVisible_cons (by decide) _
  rw [namedParameters?, word?_append isName boundary]
  simp only [Option.bind_eq_bind, Option.bind_some,
    afterSpaces_append white openingVisible,
    parenthesized?_append noClosing]
  rfl

end TestScribe.Header

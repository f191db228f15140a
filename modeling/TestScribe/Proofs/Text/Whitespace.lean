import TestScribe.Proofs.Text.Run
import TestScribe.Text.Whitespace
import TestScribe.Text.WordCharacter

/-!
# White space, words and trimming

No white-space character may stand in a name.  Trimming takes off white space
that was put around a text which neither begins nor ends with white space.
-/

namespace TestScribe.Text

/-! ## White space is no word -/

/-- The code points with the property White_Space. -/
def whitespaceCodes : List Nat :=
  [0x09, 0x0A, 0x0B, 0x0C, 0x0D, 0x20, 0x85, 0xA0, 0x1680,
    0x2000, 0x2001, 0x2002, 0x2003, 0x2004, 0x2005, 0x2006,
    0x2007, 0x2008, 0x2009, 0x200A, 0x2028, 0x2029, 0x202F,
    0x205F, 0x3000]

theorem toNat_mem_whitespaceCodes
    {character : Char}
    (white : isWhitespace character = true) :
    character.toNat ∈ whitespaceCodes := by
  simp only [isWhitespace, Bool.or_eq_true, Bool.and_eq_true,
    decide_eq_true_eq, beq_iff_eq] at white
  simp only [whitespaceCodes, List.mem_cons, List.not_mem_nil, or_false]
  omega

theorem isWordCharacter_whitespaceCodes :
    ∀ code ∈ whitespaceCodes,
      isWordCharacter (Char.ofNat code) = false := by
  decide +kernel

theorem isWordCharacter_eq_false_of_isWhitespace
    {character : Char}
    (white : isWhitespace character = true) :
    isWordCharacter character = false := by
  have checked :=
    isWordCharacter_whitespaceCodes _ (toNat_mem_whitespaceCodes white)
  rwa [Char.ofNat_toNat] at checked

theorem isWhitespace_eq_false_of_isWordCharacter
    {character : Char}
    (word : isWordCharacter character = true) :
    isWhitespace character = false := by
  cases white : isWhitespace character with
  | false => rfl
  | true =>
      rw [isWordCharacter_eq_false_of_isWhitespace white] at word
      exact nomatch word

/-! ## Visible runs -/

section VisibleRun

variable
    {run rest : List Char}

/-- A run of visible characters is taken up to white space. -/
theorem takeWhile_visible_append
    (solid : ∀ character ∈ run, isWhitespace character = false)
    (gap : ∀ character ∈ rest.head?, isWhitespace character = true) :
    (run ++ rest).takeWhile (!isWhitespace ·) = run := by
  apply takeWhile_append_of_boundary
  · intro character member
    rw [solid character member, Bool.not_false]
  · intro character isFirst
    rw [gap character isFirst, Bool.not_true]

/-- What follows a run of visible characters is left when it is dropped. -/
theorem dropWhile_visible_append
    (solid : ∀ character ∈ run, isWhitespace character = false)
    (gap : ∀ character ∈ rest.head?, isWhitespace character = true) :
    (run ++ rest).dropWhile (!isWhitespace ·) = rest := by
  apply dropWhile_append_of_boundary
  · intro character member
    rw [solid character member, Bool.not_false]
  · intro character isFirst
    rw [gap character isFirst, Bool.not_true]

end VisibleRun

/-! ## Blank texts -/

theorem isBlank_iff
    (text : List Char) :
    isBlank text = true ↔
      ∀ character ∈ text, isWhitespace character = true :=
  List.all_eq_true

theorem isBlank_eq_false_iff
    (text : List Char) :
    isBlank text = false ↔
      ∃ character ∈ text, isWhitespace character = false := by
  rw [isBlank, List.all_eq_false]
  simp only [Bool.not_eq_true]

theorem isBlank_eq_false_of_mem
    {text : List Char}
    {character : Char}
    (member : character ∈ text)
    (visible : isWhitespace character = false) :
    isBlank text = false := by
  rw [isBlank, List.all_eq_false]
  exact ⟨character, member, by simp [visible]⟩

/-- White space holds no visible character. -/
theorem not_mem_of_white
    {spaces : List Char}
    {character : Char}
    (white : ∀ character ∈ spaces, isWhitespace character = true)
    (visible : isWhitespace character = false) :
    character ∉ spaces := by
  intro member
  have isWhite := white character member
  rw [visible] at isWhite
  exact nomatch isWhite

/-- A text that holds white space is cut at the first of it. -/
theorem exists_first_white
    {text : List Char}
    (spaced : ∃ character ∈ text, isWhitespace character = true) :
    ∃ before space behind,
      text = before ++ space :: behind ∧
        isWhitespace space = true ∧
          ∀ character ∈ before, isWhitespace character = false := by
  rcases Option.isSome_iff_exists.mp (List.find?_isSome.mpr spaced) with
    ⟨space, found⟩
  rcases List.find?_eq_some_iff_append.mp found with
    ⟨white, before, behind, split, solid⟩
  refine ⟨before, space, behind, split, white, ?_⟩
  simpa using solid

/-! ## Trimming -/

/-- The text does not begin with white space. -/
def BeginsVisible
    (text : List Char) : Prop :=
  ∀ character ∈ text.head?, isWhitespace character = false

/-- The text does not end with white space. -/
def EndsVisible
    (text : List Char) : Prop :=
  ∀ character ∈ text.getLast?, isWhitespace character = false

instance (text : List Char) : Decidable (BeginsVisible text) :=
  decidable_of_iff
    (text.head?.all (isWhitespace · = false) = true)
    (by simp [BeginsVisible, Option.all_eq_true])

instance (text : List Char) : Decidable (EndsVisible text) :=
  decidable_of_iff
    (text.getLast?.all (isWhitespace · = false) = true)
    (by simp [EndsVisible, Option.all_eq_true])

theorem beginsVisible_cons
    {first : Char}
    (visible : isWhitespace first = false)
    (rest : List Char) :
    BeginsVisible (first :: rest) := by
  intro character isFirst
  rwa [← Option.some.inj isFirst]

/-- A text begins visibly when a run of visible characters is in front. -/
theorem beginsVisible_append_of_solid
    {run : List Char}
    (nonempty : run ≠ [])
    (solid : ∀ character ∈ run, isWhitespace character = false)
    (rest : List Char) :
    BeginsVisible (run ++ rest) :=
  forall_mem_head?_append nonempty solid rest

/-- What a text begins with does not depend on what follows it. -/
theorem BeginsVisible.append
    {text : List Char}
    (begins : BeginsVisible text)
    (nonempty : text ≠ [])
    (rest : List Char) :
    BeginsVisible (text ++ rest) := by
  rcases List.exists_cons_of_ne_nil nonempty with ⟨first, others, rfl⟩
  exact begins

/-- What a text ends with does not depend on what stands before it. -/
theorem EndsVisible.append
    {text : List Char}
    (ends : EndsVisible text)
    (nonempty : text ≠ [])
    (before : List Char) :
    EndsVisible (before ++ text) := by
  intro character last
  rw [List.getLast?_append, List.getLast?_eq_some_getLast nonempty,
    Option.some_or, ← List.getLast?_eq_some_getLast nonempty] at last
  exact ends character last

theorem beginsVisible_trimStart
    (text : List Char) :
    BeginsVisible (trimStart text) := by
  intro character isFirst
  have visible := List.head?_dropWhile_not isWhitespace text
  rw [← trimStart, Option.mem_def.mp isFirst] at visible
  exact visible

theorem endsVisible_trimEnd
    (text : List Char) :
    EndsVisible (trimEnd text) := by
  intro character isLast
  rw [trimEnd, List.getLast?_reverse] at isLast
  exact beginsVisible_trimStart text.reverse character isLast

theorem trimEnd_isPrefix
    (text : List Char) :
    trimEnd text <+: text := by
  rw [← List.reverse_suffix, trimEnd, List.reverse_reverse]
  exact List.dropWhile_suffix isWhitespace

theorem trimStart_isSuffix
    (text : List Char) :
    trimStart text <:+ text :=
  List.dropWhile_suffix isWhitespace

theorem trim_isInfix
    (text : List Char) :
    trim text <:+: text :=
  (trimEnd_isPrefix _).isInfix.trans (trimStart_isSuffix text).isInfix

theorem endsVisible_trim
    (text : List Char) :
    EndsVisible (trim text) :=
  endsVisible_trimEnd (trimStart text)

theorem beginsVisible_trim
    (text : List Char) :
    BeginsVisible (trim text) := by
  intro character isFirst
  rcases List.head?_eq_some_iff.mp isFirst with ⟨others, trimmed⟩
  rcases trimEnd_isPrefix (trimStart text) with ⟨after, same⟩
  apply beginsVisible_trimStart text character
  rw [← same, ← trim, trimmed]
  rfl

/-- White space behind a text is taken off. -/
theorem trimEnd_append
    {text after : List Char}
    (white : ∀ character ∈ after, isWhitespace character = true)
    (ends : EndsVisible text) :
    trimEnd (text ++ after) = text := by
  have endsReversed : BeginsVisible text.reverse := by
    intro character first
    rw [List.head?_reverse] at first
    exact ends character first
  rw [trimEnd, List.reverse_append,
    dropWhile_append_of_boundary _ endsReversed, List.reverse_reverse]
  intro character member
  exact white character (List.mem_reverse.mp member)

/-- What follows the first visible character stays as it is. -/
theorem trimStart_append
    {text : List Char}
    (nonempty : trimStart text ≠ [])
    (rest : List Char) :
    trimStart (text ++ rest) = trimStart text ++ rest := by
  rw [trimStart, List.dropWhile_append, ← trimStart,
    if_neg (by simp [nonempty])]

/-- White space is taken off up to the first visible character. -/
theorem trimStart_append_cons
    {character : Char}
    (visible : isWhitespace character = false)
    (before rest : List Char) :
    trimStart (before ++ character :: rest) =
      trimStart before ++ character :: rest := by
  rw [trimStart, trimStart, List.dropWhile_append]
  split
  · next allWhite =>
    rw [List.isEmpty_iff.mp allWhite,
      List.dropWhile_cons_of_neg (by simp [visible])]
    rfl
  · rfl

/-- Trimming takes off the white space around a text. -/
theorem trim_append_append
    {before text after : List Char}
    (whiteBefore : ∀ character ∈ before, isWhitespace character = true)
    (whiteAfter : ∀ character ∈ after, isWhitespace character = true)
    (nonempty : text ≠ [])
    (begins : BeginsVisible text)
    (ends : EndsVisible text) :
    trim (before ++ (text ++ after)) = text := by
  have beginsToo : BeginsVisible (text ++ after) :=
    begins.append nonempty after
  rw [trim, trimStart, dropWhile_append_of_boundary whiteBefore beginsToo,
    trimEnd_append whiteAfter ends]

/-- Around a trimmed text stands nothing but white space. -/
theorem exists_white_around_trim
    (text : List Char) :
    ∃ before after,
      text = before ++ (trim text ++ after) ∧
        (∀ character ∈ before, isWhitespace character = true) ∧
          ∀ character ∈ after, isWhitespace character = true := by
  refine
    ⟨text.takeWhile isWhitespace,
      ((trimStart text).reverse.takeWhile isWhitespace).reverse, ?_, ?_,
      ?_⟩
  · have behind :
        trim text ++
            ((trimStart text).reverse.takeWhile isWhitespace).reverse =
          trimStart text := by
      rw [trim, trimEnd, ← List.reverse_append,
        List.takeWhile_append_dropWhile, List.reverse_reverse]
    rw [behind, trimStart, List.takeWhile_append_dropWhile]
  · exact List.all_eq_true.mp List.all_takeWhile
  · intro character member
    exact
      List.all_eq_true.mp List.all_takeWhile character
        (List.mem_reverse.mp member)

/-- The white space behind two visible ends of one text is the same. -/
theorem eq_of_append_white
    {text other after behind : List Char}
    (ends : EndsVisible text)
    (otherEnds : EndsVisible other)
    (white : ∀ character ∈ after, isWhitespace character = true)
    (otherWhite : ∀ character ∈ behind, isWhitespace character = true)
    (same : text ++ after = other ++ behind) :
    text = other ∧ after = behind := by
  have sameText : text = other := by
    rw [← trimEnd_append white ends, same,
      trimEnd_append otherWhite otherEnds]
  subst sameText
  exact ⟨rfl, List.append_cancel_left same⟩

end TestScribe.Text

import Mathlib.Computability.Language
import Mathlib.Data.List.TakeWhile
import TestScribe.Proofs.Header.Reading

/-!
# The grammar of headers

The pieces of a header are languages, and a header is written as their product.
A text begins with a product when it begins with a text of the first factor and
what follows begins with the others.  Each reader finds what its language says:
since no factor can begin with a character of the run before it, the run is
read to its end.  A language is kept off a line by pieces that each of its texts
holds and the line does not.
-/

namespace TestScribe.Header.Grammar

open TestScribe.Text

/-! ## The pieces of a header -/

/-- One text and no other. -/
def literal
    (text : String) :
    Language Char :=
  {text.toList}

/-- White space, which may be missing. -/
def spaces : Language Char :=
  { text | ∀ character ∈ text, isWhitespace character = true }

/-- White space that is not missing. -/
def gap : Language Char :=
  { text | text ≠ [] ∧ ∀ character ∈ text, isWhitespace character = true }

instance (text : List Char) : Decidable (text ∈ gap) :=
  decidable_of_iff
    (text ≠ [] ∧ isBlank text = true)
    (and_congr_right fun _ => isBlank_iff text)

/-- A keyword and white space after it. -/
def keyword
    (text : String) :
    Language Char :=
  literal text * gap

/-- A text of the language, which may be missing. -/
def optional
    (language : Language Char) :
    Language Char :=
  1 + language

/-- This text, if it holds no white space. -/
def visibleRun
    (run : List Char) :
    Language Char :=
  { text |
    text = run ∧ ∀ character ∈ text, isWhitespace character = false }

/-- This name, if it is one. -/
def word
    (name : List Char) :
    Language Char :=
  { text | text = name ∧ IsName name }

/-- Parentheses around this text, if it holds no closing one. -/
def parameterList
    (raw : List Char) :
    Language Char :=
  { text | text = '(' :: (raw ++ [')']) ∧ ')' ∉ raw }

/-! ## First characters -/

variable
    {property : Char → Prop}
    {first second : Language Char}

/-- Every text of the language begins with a character with the property. -/
def StartsWith
    (property : Char → Prop)
    (language : Language Char) : Prop :=
  ∀ text ∈ language, ∃ character ∈ text.head?, property character

theorem startsWith_literal
    {text : String}
    (character : Char)
    (begins : text.toList.head? = some character)
    (holds : property character) :
    StartsWith property (literal text) := by
  rintro _ rfl
  exact ⟨character, begins, holds⟩

theorem startsWith_parameterList
    (holds : property '(')
    (raw : List Char) :
    StartsWith property (parameterList raw) := by
  rintro _ ⟨rfl, -⟩
  exact ⟨'(', rfl, holds⟩

theorem startsWith_gap
    (holds : ∀ character, isWhitespace character = true → property character) :
    StartsWith property gap := by
  rintro _ ⟨nonempty, allWhite⟩
  rcases List.exists_cons_of_ne_nil nonempty with ⟨character, others, rfl⟩
  exact ⟨character, rfl, holds _ (allWhite _ List.mem_cons_self)⟩

theorem startsWith_word
    (holds :
      ∀ character, isWordCharacter character = true → property character)
    (name : List Char) :
    StartsWith property (word name) := by
  rintro _ ⟨rfl, isName⟩
  rcases List.exists_cons_of_ne_nil isName.nonempty with
    ⟨character, others, rfl⟩
  exact ⟨character, rfl, holds _ (isName.word _ List.mem_cons_self)⟩

theorem StartsWith.mul
    (starts : StartsWith property first)
    (second : Language Char) :
    StartsWith property (first * second) := by
  rintro _ ⟨text, member, rest, -, rfl⟩
  rcases starts text member with ⟨character, isFirst, holds⟩
  rcases List.head?_eq_some_iff.mp isFirst with ⟨others, rfl⟩
  exact ⟨character, rfl, holds⟩

theorem startsWith_keyword
    (text : String)
    (character : Char)
    (begins : text.toList.head? = some character)
    (holds : property character) :
    StartsWith property (keyword text) :=
  (startsWith_literal character begins holds).mul gap

theorem StartsWith.add
    (firstStarts : StartsWith property first)
    (secondStarts : StartsWith property second) :
    StartsWith property (first + second) := by
  rintro text (member | member)
  · exact firstStarts text member
  · exact secondStarts text member

theorem StartsWith.optional_mul
    (firstStarts : StartsWith property first)
    (secondStarts : StartsWith property second) :
    StartsWith property (optional first * second) := by
  rw [optional, add_mul, one_mul]
  exact secondStarts.add (firstStarts.mul second)

theorem StartsWith.spaces_mul
    (holds : ∀ character, isWhitespace character = true → property character)
    (starts : StartsWith property second) :
    StartsWith property (spaces * second) := by
  rintro _ ⟨white, allWhite, rest, member, rfl⟩
  cases white with
  | nil => exact starts rest member
  | cons character white =>
      exact ⟨character, rfl, holds _ (allWhite _ List.mem_cons_self)⟩

/-! ## Last characters -/

/-- Every text of the language that is not empty ends with a character with the
property. -/
def EndsWith
    (property : Char → Prop)
    (language : Language Char) : Prop :=
  ∀ text ∈ language, ∀ character ∈ text.getLast?, property character

theorem endsWith_one
    (property : Char → Prop) :
    EndsWith property 1 := by
  rintro _ rfl
  exact nofun

theorem EndsWith.mul
    (firstEnds : EndsWith property first)
    (secondEnds : EndsWith property second) :
    EndsWith property (first * second) := by
  rintro _ ⟨text, member, rest, memberBehind, rfl⟩ character isLast
  rw [List.getLast?_append, Option.mem_def, Option.or_eq_some_iff]
    at isLast
  rcases isLast with inSecond | ⟨-, inFirst⟩
  · exact secondEnds rest memberBehind character inSecond
  · exact firstEnds text member character inFirst

theorem EndsWith.optional
    (ends : EndsWith property first) :
    EndsWith property (optional first) := by
  rintro text (missing | member)
  · exact endsWith_one property text missing
  · exact ends text member

theorem EndsWith.add
    (firstEnds : EndsWith property first)
    (secondEnds : EndsWith property second) :
    EndsWith property (first + second) := by
  rintro text (member | member)
  · exact firstEnds text member
  · exact secondEnds text member

theorem endsWith_literal
    {text : String}
    (character : Char)
    (ends : text.toList.getLast? = some character)
    (holds : property character) :
    EndsWith property (literal text) := by
  rintro _ rfl found isLast
  rw [ends] at isLast
  rwa [← Option.some.inj isLast]

theorem endsWith_spaces
    (holds : ∀ character, isWhitespace character = true → property character) :
    EndsWith property spaces := by
  intro text allWhite character isLast
  exact holds character (allWhite _ (List.mem_of_getLast? isLast))

theorem endsWith_keyword
    (holds : ∀ character, isWhitespace character = true → property character)
    (text : String) :
    EndsWith property (keyword text) := by
  rintro _ ⟨_, rfl, white, ⟨nonempty, allWhite⟩, rfl⟩ character isLast
  rw [List.getLast?_append, List.getLast?_eq_some_getLast nonempty,
    Option.some_or, Option.mem_some] at isLast
  rw [← isLast]
  exact holds _ (allWhite _ (List.getLast_mem nonempty))

/-! ## Texts that hold a piece -/

/-- Every text of the language holds one of the pieces. -/
def Holds
    (pieces language : Language Char) : Prop :=
  ∀ text ∈ language, ∃ piece ∈ pieces, piece <:+: text

variable
    {pieces : Language Char}

theorem holds_self
    (language : Language Char) :
    Holds language language :=
  fun text member => ⟨text, member, List.infix_rfl⟩

theorem Holds.mul
    (holds : Holds pieces first)
    (second : Language Char) :
    Holds pieces (first * second) := by
  rintro _ ⟨text, member, behind, -, rfl⟩
  rcases holds text member with ⟨piece, isPiece, inside⟩
  exact
    ⟨piece, isPiece,
      inside.trans (List.prefix_append text behind).isInfix⟩

theorem Holds.mul_left
    (first : Language Char)
    (holds : Holds pieces second) :
    Holds pieces (first * second) := by
  rintro _ ⟨before, -, text, member, rfl⟩
  rcases holds text member with ⟨piece, isPiece, inside⟩
  exact
    ⟨piece, isPiece,
      inside.trans (List.suffix_append before text).isInfix⟩

theorem Holds.add
    (firstHolds : Holds pieces first)
    (secondHolds : Holds pieces second) :
    Holds pieces (first + second) := by
  rintro text (member | member)
  · exact firstHolds text member
  · exact secondHolds text member

theorem Holds.or_left
    (holds : Holds pieces first)
    (otherPieces : Language Char) :
    Holds (pieces + otherPieces) first := by
  intro text member
  rcases holds text member with ⟨piece, isPiece, inside⟩
  exact ⟨piece, .inl isPiece, inside⟩

theorem Holds.or_right
    (otherPieces : Language Char)
    (holds : Holds pieces first) :
    Holds (otherPieces + pieces) first := by
  intro text member
  rcases holds text member with ⟨piece, isPiece, inside⟩
  exact ⟨piece, .inr isPiece, inside⟩

/-! ## Texts that begin with a text of a language -/

/-- Some front of the text is in the language. -/
def Begins
    (language : Language Char)
    (text : List Char) : Prop :=
  ∃ written ∈ language, written <+: text

variable
    {text rest name raw : List Char}

theorem Begins.head?
    (begins : Begins first text)
    (starts : StartsWith property first) :
    ∃ character ∈ text.head?, property character := by
  rcases begins with ⟨written, member, rest, rfl⟩
  rcases starts written member with ⟨character, isFirst, holds⟩
  rcases List.head?_eq_some_iff.mp isFirst with ⟨others, rfl⟩
  exact ⟨character, rfl, holds⟩

theorem Begins.forall_head?
    (begins : Begins first text)
    (starts : StartsWith property first) :
    ∀ character ∈ text.head?, property character := by
  rcases begins.head? starts with ⟨found, isFirst, holds⟩
  intro character isFirstToo
  rw [Option.mem_unique isFirstToo isFirst]
  exact holds

@[simp]
theorem begins_one
    (text : List Char) :
    Begins 1 text :=
  ⟨[], rfl, List.nil_prefix⟩

theorem begins_add_iff :
    Begins (first + second) text ↔
      Begins first text ∨ Begins second text := by
  constructor
  · rintro ⟨written, member | member, front⟩
    · exact .inl ⟨written, member, front⟩
    · exact .inr ⟨written, member, front⟩
  · rintro (⟨written, member, front⟩ | ⟨written, member, front⟩)
    · exact ⟨written, .inl member, front⟩
    · exact ⟨written, .inr member, front⟩

/-- A text begins with a product when what follows a text of the first factor
begins with the second. -/
theorem begins_mul_iff :
    Begins (first * second) text ↔
      ∃ written ∈ first, ∃ rest,
        text = written ++ rest ∧ Begins second rest := by
  constructor
  · rintro ⟨_, ⟨written, member, behind, memberBehind, rfl⟩, rest, rfl⟩
    exact
      ⟨written, member, behind ++ rest, List.append_assoc _ _ _,
        behind, memberBehind, List.prefix_append _ _⟩
  · rintro ⟨written, member, _, rfl, behind, memberBehind, rest, rfl⟩
    exact
      ⟨written ++ behind, ⟨written, member, behind, memberBehind, rfl⟩,
        rest, List.append_assoc _ _ _⟩

theorem begins_optional_mul_iff :
    Begins (optional first * second) text ↔
      Begins second text ∨ Begins (first * second) text := by
  rw [optional, add_mul, one_mul, begins_add_iff]

/-! ## Readers find what their languages say -/

/-- A character that is not white space. -/
abbrev Visible
    (character : Char) : Prop :=
  isWhitespace character = false

/-- A character that cannot stand in a name. -/
abbrev OutsideWord
    (character : Char) : Prop :=
  isWordCharacter character = false

theorem begins_literal_mul_iff
    {literalText : String} :
    Begins (literal literalText * second) text ↔
      ∃ rest,
        afterText? literalText text = some rest ∧ Begins second rest := by
  simp only [begins_mul_iff, afterText?_eq_some_iff]
  constructor
  · rintro ⟨_, rfl, rest, same, begins⟩
    exact ⟨rest, same, begins⟩
  · rintro ⟨rest, same, begins⟩
    exact ⟨_, rfl, rest, same, begins⟩

theorem begins_literal_iff
    {literalText : String} :
    Begins (literal literalText) text ↔
      ∃ rest, afterText? literalText text = some rest := by
  rw [← mul_one (literal literalText), begins_literal_mul_iff]
  simp

theorem begins_spaces_mul_iff
    (visible : StartsWith Visible second) :
    Begins (spaces * second) text ↔ Begins second (afterSpaces text) := by
  rw [begins_mul_iff]
  constructor
  · rintro ⟨white, allWhite, rest, rfl, begins⟩
    rwa [afterSpaces_append allWhite (begins.forall_head? visible)]
  · intro begins
    refine ⟨text.takeWhile isWhitespace, ?_, afterSpaces text, ?_, begins⟩
    · exact fun _ => List.mem_takeWhile_imp
    · exact List.takeWhile_append_dropWhile.symm

theorem exists_gap_of_afterGap?
    (read : afterGap? text = some rest) :
    ∃ white ∈ gap, text = white ++ rest := by
  cases text with
  | nil => exact nomatch read
  | cons character text =>
      rw [afterGap?, Option.ite_none_right_eq_some,
        Option.some.injEq] at read
      rcases read with ⟨white, rfl⟩
      refine
        ⟨character :: text.takeWhile isWhitespace,
          ⟨List.cons_ne_nil _ _, ?_⟩, ?_⟩
      · exact
          List.forall_mem_cons.mpr
            ⟨white, fun _ => List.mem_takeWhile_imp⟩
      · rw [List.cons_append, afterSpaces,
          List.takeWhile_append_dropWhile]

theorem exists_gap_of_afterKeyword?
    {keywordText : String}
    (read : afterKeyword? keywordText text = some rest) :
    ∃ white ∈ gap, text = keywordText.toList ++ (white ++ rest) := by
  rcases Option.bind_eq_some_iff.mp read with ⟨behind, here, gapRead⟩
  rcases exists_gap_of_afterGap? gapRead with ⟨white, isGap, rfl⟩
  exact ⟨white, isGap, afterText?_eq_some_iff.mp here⟩

theorem begins_gap_mul_iff
    (visible : StartsWith Visible second) :
    Begins (gap * second) text ↔
      ∃ rest, afterGap? text = some rest ∧ Begins second rest := by
  rw [begins_mul_iff]
  constructor
  · rintro ⟨white, ⟨nonempty, allWhite⟩, rest, rfl, begins⟩
    exact
      ⟨rest,
        afterGap?_append nonempty allWhite (begins.forall_head? visible),
        begins⟩
  · rintro ⟨rest, read, begins⟩
    rcases exists_gap_of_afterGap? read with ⟨white, isGap, same⟩
    exact ⟨white, isGap, rest, same, begins⟩

theorem begins_keyword_mul_iff
    {keywordText : String}
    (visible : StartsWith Visible second) :
    Begins (keyword keywordText * second) text ↔
      ∃ rest,
        afterKeyword? keywordText text = some rest ∧
          Begins second rest := by
  simp only [keyword, mul_assoc, begins_literal_mul_iff,
    begins_gap_mul_iff visible, afterKeyword?, Option.bind_eq_some_iff]
  constructor
  · rintro ⟨behind, here, rest, gapRead, begins⟩
    exact ⟨rest, ⟨behind, here, gapRead⟩, begins⟩
  · rintro ⟨rest, ⟨behind, here, gapRead⟩, begins⟩
    exact ⟨behind, here, rest, gapRead, begins⟩

/-- An optional keyword is read if it is there, since nothing else that may
follow begins with its first letter. -/
theorem begins_optional_keyword_mul_iff
    {keywordText : String}
    (initial : Char)
    (isInitial : keywordText.toList.head? = some initial)
    (visible : StartsWith Visible second)
    (differs : StartsWith (· ≠ initial) second) :
    Begins (optional (keyword keywordText) * second) text ↔
      Begins second (afterOptionalKeyword keywordText text) := by
  rw [begins_optional_mul_iff, begins_keyword_mul_iff visible,
    afterOptionalKeyword]
  cases read : afterKeyword? keywordText text with
  | none => simp
  | some rest =>
      have absent : ¬ Begins second text := by
        intro begins
        rcases begins.head? differs with ⟨character, isFirst, notInitial⟩
        rcases List.head?_eq_some_iff.mp isFirst with ⟨others, rfl⟩
        rw [afterKeyword?_cons_of_ne isInitial notInitial.symm] at read
        exact nomatch read
      simp [absent]

theorem word?_eq_some
    (read : word? text = some (name, rest)) :
    IsName name ∧ text = name ++ rest := by
  have pieces : text.span isWordCharacter = (name, rest) := by
    rw [word?] at read
    split at read
    · cases read
    · exact Option.some.inj read
  have nonempty : name ≠ [] := by
    rintro rfl
    rw [word?, pieces] at read
    cases read
  rw [List.span_eq_takeWhile_dropWhile, Prod.mk.injEq] at pieces
  rcases pieces with ⟨rfl, rfl⟩
  exact
    ⟨⟨nonempty, fun _ => List.mem_takeWhile_imp⟩,
      List.takeWhile_append_dropWhile.symm⟩

theorem begins_word_mul_iff
    (outside : StartsWith OutsideWord second) :
    Begins (word name * second) text ↔
      ∃ rest, word? text = some (name, rest) ∧ Begins second rest := by
  rw [begins_mul_iff]
  constructor
  · rintro ⟨_, ⟨rfl, isName⟩, rest, rfl, begins⟩
    exact
      ⟨rest, word?_append isName (begins.forall_head? outside), begins⟩
  · rintro ⟨rest, read, begins⟩
    rcases word?_eq_some read with ⟨isName, same⟩
    exact ⟨name, ⟨rfl, isName⟩, rest, same, begins⟩

theorem parenthesized?_eq_some_iff :
    parenthesized? text = some (raw, rest) ↔
      text = '(' :: (raw ++ ')' :: rest) ∧ ')' ∉ raw := by
  constructor
  · intro read
    fun_cases parenthesized? text with
    | case1 inner unclosed =>
        rw [parenthesized?, unclosed] at read
        cases read
    | case2 inner stop behind dropped =>
        rcases eq_takeWhile_append_cons dropped with ⟨same, stops⟩
        have isClosing : stop = ')' := by
          simpa using stops
        subst isClosing
        rw [parenthesized?, dropped, Option.some.injEq,
          Prod.mk.injEq] at read
        rcases read with ⟨rfl, rfl⟩
        constructor
        · rw [← same]
        · intro member
          cases List.mem_takeWhile_imp member
    | case3 text notOpening =>
        rw [parenthesized?] at read
        · cases read
        · exact notOpening
  · rintro ⟨rfl, noClosing⟩
    exact parenthesized?_append noClosing rest

theorem begins_parameterList_mul_iff :
    Begins (parameterList raw * second) text ↔
      ∃ rest,
        parenthesized? text = some (raw, rest) ∧ Begins second rest := by
  simp only [begins_mul_iff, parenthesized?_eq_some_iff]
  constructor
  · rintro ⟨_, ⟨rfl, noClosing⟩, rest, rfl, begins⟩
    exact ⟨rest, ⟨by simp, noClosing⟩, begins⟩
  · rintro ⟨rest, ⟨rfl, noClosing⟩, begins⟩
    exact ⟨_, ⟨rfl, noClosing⟩, rest, by simp, begins⟩

theorem begins_parameterList_iff :
    Begins (parameterList raw) text ↔
      ∃ rest, parenthesized? text = some (raw, rest) := by
  rw [← mul_one (parameterList raw), begins_parameterList_mul_iff]
  simp

/-- A run of visible characters is read up to white space. -/
theorem begins_visibleRun_mul_iff
    {run : List Char}
    (white : StartsWith (isWhitespace · = true) second) :
    Begins (visibleRun run * second) text ↔
      run = text.takeWhile (!isWhitespace ·) ∧
        Begins second (text.dropWhile (!isWhitespace ·)) := by
  rw [begins_mul_iff]
  constructor
  · rintro ⟨_, ⟨rfl, solid⟩, rest, rfl, begins⟩
    have gap := begins.forall_head? white
    rw [takeWhile_visible_append solid gap,
      dropWhile_visible_append solid gap]
    exact ⟨rfl, begins⟩
  · rintro ⟨rfl, begins⟩
    refine
      ⟨_, ⟨rfl, ?_⟩, _, List.takeWhile_append_dropWhile.symm, begins⟩
    intro character member
    simpa using List.mem_takeWhile_imp member

/-- A name and its parameter list are read as they are written. -/
theorem begins_heading_mul_iff :
    Begins (word name * (spaces * (parameterList raw * second))) text ↔
      ∃ rest,
        namedParameters? text = some ((name, raw), rest) ∧
          Begins second rest := by
  have listVisible :
      StartsWith Visible (parameterList raw * second) :=
    (startsWith_parameterList (by decide) raw).mul second
  have listOutside :
      StartsWith OutsideWord (spaces * (parameterList raw * second)) :=
    ((startsWith_parameterList (by decide) raw).mul second).spaces_mul
      fun _ => isWordCharacter_eq_false_of_isWhitespace
  simp only [begins_word_mul_iff listOutside,
    begins_spaces_mul_iff listVisible, begins_parameterList_mul_iff,
    namedParameters?, Option.bind_eq_bind, Option.bind_eq_some_iff,
    Prod.exists]
  constructor
  · rintro ⟨behind, wordRead, rest, listRead, begins⟩
    exact
      ⟨rest, ⟨name, behind, wordRead, raw, rest, listRead, rfl⟩, begins⟩
  · rintro ⟨rest, ⟨_, behind, wordRead, _, _, listRead, found⟩, begins⟩
    cases found
    exact ⟨behind, wordRead, rest, listRead, begins⟩

theorem begins_heading_iff :
    Begins (word name * (spaces * parameterList raw)) text ↔
      ∃ rest, namedParameters? text = some ((name, raw), rest) := by
  rw [← mul_one (parameterList raw), begins_heading_mul_iff]
  simp

/-- What a name and its parameter list are read from. -/
theorem exists_of_namedParameters?
    (read : namedParameters? text = some ((name, raw), rest)) :
    IsName name ∧ ')' ∉ raw ∧
      ∃ white, (∀ character ∈ white, isWhitespace character = true) ∧
        text = name ++ (white ++ '(' :: (raw ++ ')' :: rest)) := by
  simp only [namedParameters?, Option.bind_eq_bind,
    Option.bind_eq_some_iff, Prod.exists] at read
  rcases read with ⟨_, behind, wordRead, _, _, listRead, found⟩
  cases found
  rcases word?_eq_some wordRead with ⟨isName, rfl⟩
  rcases parenthesized?_eq_some_iff.mp listRead with ⟨spacedEq, noClosing⟩
  refine
    ⟨isName, noClosing, behind.takeWhile isWhitespace,
      fun _ => List.mem_takeWhile_imp, ?_⟩
  rw [← spacedEq, afterSpaces, List.takeWhile_append_dropWhile]

/-- No name and list are read when another character than a parenthesis stands
before the first opening one, which belongs neither to a name nor to white
space. -/
theorem namedParameters?_append_cons_eq_none
    {before : List Char}
    {stop : Char}
    (noOpening : '(' ∉ before)
    (outside : OutsideWord stop)
    (visible : Visible stop)
    (differs : stop ≠ '(')
    (rest : List Char) :
    namedParameters? (before ++ stop :: rest) = none := by
  cases read : namedParameters? (before ++ stop :: rest) with
  | none => rfl
  | some found =>
      rcases found with ⟨⟨name, raw⟩, behind⟩
      rcases exists_of_namedParameters? read with
        ⟨isName, -, white, allWhite, same⟩
      rw [← List.append_assoc] at same
      rcases append_cons_eq_append_cons same with
        ⟨-, isOpening, -⟩ | ⟨between, frontEq, -⟩ | ⟨between, beforeEq, -⟩
      · exact absurd isOpening differs
      · have inFront : stop ∈ name ++ white :=
          frontEq ▸ List.mem_append_cons_self
        rcases List.mem_append.mp inFront with inName | inWhite
        · have isWord := isName.word stop inName
          rw [outside] at isWord
          exact nomatch isWord
        · exact absurd inWhite (not_mem_of_white allWhite visible)
      · exact absurd (beforeEq ▸ List.mem_append_cons_self) noOpening

/-! ## The leftmost text of a family of languages -/

/-- Where a reader finds what the language that begins stands for, its leftmost
success is at the first position at which one of the languages begins. -/
theorem leftmost?_eq_some_iff_begins
    {α ι : Type}
    {reader : List Char → Option α}
    {language : ι → Language Char}
    {meaning : ι → α}
    (reads :
      ∀ text found,
        reader text = some found ↔
          ∃ index, Begins (language index) text ∧ meaning index = found)
    {text : List Char}
    {found : α} :
    leftmost? reader text = some found ↔
      ∃ position index,
        Begins (language index) (text.drop position) ∧
          meaning index = found ∧
            ∀ earlier other,
              Begins (language other) (text.drop earlier) →
                position ≤ earlier := by
  rw [leftmost?_eq_some_iff]
  constructor
  · rintro ⟨position, read, first⟩
    rcases (reads _ _).mp read with ⟨index, begins, isFound⟩
    refine ⟨position, index, begins, isFound, ?_⟩
    intro earlier other otherBegins
    refine Nat.le_of_not_lt fun before => ?_
    have success := (reads _ _).mpr ⟨other, otherBegins, rfl⟩
    rw [first earlier before] at success
    exact nomatch success
  · rintro ⟨position, index, begins, isFound, leftmost⟩
    refine ⟨position, (reads _ _).mpr ⟨index, begins, isFound⟩, ?_⟩
    intro earlier before
    cases read : reader (text.drop earlier) with
    | none => rfl
    | some other =>
        rcases (reads _ _).mp read with ⟨otherIndex, otherBegins, -⟩
        have reached := leftmost earlier otherIndex otherBegins
        exact absurd before (Nat.not_lt.mpr reached)

/-- Where a text of some language begins anywhere, one begins somewhere
leftmost. -/
theorem exists_leftmost_of_begins
    {ι : Type}
    (language : ι → Language Char)
    (index : ι)
    {text : List Char}
    {position : Nat}
    (begins : Begins (language index) (text.drop position)) :
    ∃ first found,
      Begins (language found) (text.drop first) ∧
        ∀ earlier other,
          Begins (language other) (text.drop earlier) →
            first ≤ earlier := by
  classical
  have somewhere :
      ∃ position, ∃ index, Begins (language index) (text.drop position) :=
    ⟨position, index, begins⟩
  rcases Nat.find_spec somewhere with ⟨found, firstBegins⟩
  refine ⟨Nat.find somewhere, found, firstBegins, ?_⟩
  intro earlier other otherBegins
  exact Nat.find_min' somewhere ⟨other, otherBegins⟩

end TestScribe.Header.Grammar

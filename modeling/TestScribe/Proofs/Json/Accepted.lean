import TestScribe.Proofs.Json.Printing

/-!
# The texts that the reader accepts

Whatever the reader reads is spelled by the grammar, so it accepts the JSON texts
and no others, and gives for each the value that it spells.  White space that the
reader passes over belongs to the value before or behind it; the induction is on
the rounds, with one step for values, one for items and one for members.
-/

namespace TestScribe.Json

open TestScribe.Text

/-! ## String literals -/

theorem exists_spellsPieces_of_readPieces?
    {text rest : List TextUnit}
    {pieces : List Piece}
    (read : readPieces? text = some (pieces, rest)) :
    ∃ body,
      text = body ++ some '"' :: rest ∧ SpellsPieces body pieces := by
  fun_induction readPieces? text generalizing pieces rest with
  | case1 => exact nomatch read
  | case2 =>
      cases read
      exact ⟨[], rfl, .nil⟩
  | case3 a b c d text ih =>
      simp only [Option.bind_eq_bind, Option.bind_eq_some_iff,
        Prod.exists] at read
      rcases read with ⟨number, isNumber, others, behind, read, found⟩
      cases found
      rcases ih read with ⟨body, rfl, spelled⟩
      exact
        ⟨some '\\' :: some 'u' :: [a, b, c, d] ++ body, rfl,
          .cons (.codeUnit rfl isNumber) spelled⟩
  | case4 letter text _ ih =>
      simp only [Option.bind_eq_bind, Option.bind_eq_some_iff,
        Prod.exists] at read
      rcases read with ⟨character, isEscape, others, behind, read, found⟩
      cases found
      rcases ih read with ⟨body, rfl, spelled⟩
      exact
        ⟨[some '\\', some letter] ++ body, rfl,
          .cons (.short isEscape) spelled⟩
  | case5 => exact nomatch read
  | case6 => exact nomatch read
  | case7 unit text notQuote _ _ notBackslash notControl ih =>
      simp only [Option.bind_eq_bind, Option.bind_eq_some_iff,
        Prod.exists] at read
      rcases read with ⟨others, behind, read, found⟩
      cases found
      rcases ih read with ⟨body, rfl, spelled⟩
      have first : SpellsPiece [unit] (.plain unit) :=
        .plain notQuote notBackslash (Bool.eq_false_iff.mpr notControl)
      exact ⟨[unit] ++ body, rfl, .cons first spelled⟩

/-- What is read behind an opening quote is spelled with it. -/
theorem exists_spellsLiteral_of_readLiteral?
    {text rest : List TextUnit}
    {literal : Literal}
    (read : readLiteral? text = some (literal, rest)) :
    ∃ units,
      some '"' :: text = units ++ rest ∧ SpellsLiteral units literal := by
  simp only [readLiteral?, Option.bind_eq_bind, Option.bind_eq_some_iff,
    Prod.exists] at read
  rcases read with ⟨pieces, behind, read, found⟩
  cases found
  rcases exists_spellsPieces_of_readPieces? read with
    ⟨body, rfl, spelled⟩
  refine ⟨some '"' :: (body ++ [some '"']), ?_, .quoted spelled⟩
  simp

/-! ## Numbers -/

section Numbers

variable
    {text rest : List TextUnit}
    {digits whole fraction exponent magnitude spelling : List Char}

theorem map_some_charactersOf
    {units : List TextUnit}
    (areCharacters : ∀ unit ∈ units, unit.isSome = true) :
    (charactersOf units).map some = units := by
  rw [charactersOf, List.map_filterMap_some_eq_filter_map_isSome,
    List.map_id, List.filter_eq_self.mpr areCharacters]

theorem isDigits_of_readSomeDigits?
    (read : readSomeDigits? text = some (digits, rest)) :
    text = digits.map some ++ rest ∧ IsDigits digits := by
  have found : readDigits text = (digits, rest) ∧ digits ≠ [] := by
    rw [readSomeDigits?] at read
    split at read
    · cases read
    · next notEmpty =>
      have isFound := Option.some.inj read
      refine ⟨isFound, ?_⟩
      rintro rfl
      exact notEmpty rest isFound
  rcases found with ⟨found, nonempty⟩
  rw [readDigits, Prod.mk.injEq] at found
  rcases found with ⟨rfl, rfl⟩
  have areDigits :
      ∀ unit ∈ text.takeWhile isDigitUnit, isDigitUnit unit = true :=
    fun _ => List.mem_takeWhile_imp
  have spelled :
      (charactersOf (text.takeWhile isDigitUnit)).map some =
        text.takeWhile isDigitUnit := by
    apply map_some_charactersOf
    intro unit member
    have isDigit := areDigits unit member
    cases unit with
    | none => cases isDigit
    | some character => rfl
  refine ⟨?_, nonempty, ?_⟩
  · rw [spelled, List.takeWhile_append_dropWhile]
  · intro character member
    have isMember : some character ∈ text.takeWhile isDigitUnit :=
      spelled ▸ List.mem_map_of_mem member
    exact areDigits _ isMember

theorem isIntegerPart_of_readIntegerPart?
    (read : readIntegerPart? text = some (whole, rest)) :
    text = whole.map some ++ rest ∧ IsIntegerPart whole := by
  rw [readIntegerPart?.eq_def] at read
  split at read
  · cases read
    exact ⟨rfl, .zero⟩
  · next noZero =>
    rcases isDigits_of_readSomeDigits? read with ⟨rfl, isDigits⟩
    refine ⟨rfl, .digits isDigits ?_⟩
    intro isZero
    rcases List.head?_eq_some_iff.mp isZero with ⟨others, rfl⟩
    exact noZero _ rfl

theorem isFraction_of_readFraction?
    (read : readFraction? text = some (fraction, rest)) :
    text = fraction.map some ++ rest ∧ IsFraction fraction := by
  rw [readFraction?.eq_def] at read
  split at read
  · simp only [Option.bind_eq_bind, Option.bind_eq_some_iff,
      Prod.exists] at read
    rcases read with ⟨digits, behind, read, found⟩
    cases found
    rcases isDigits_of_readSomeDigits? read with ⟨rfl, isDigits⟩
    exact ⟨rfl, .point isDigits⟩
  · cases read
    exact ⟨rfl, .missing⟩

/-- The sign of an exponent and what follows it. -/
theorem eq_of_readSign
    (text : List TextUnit) :
    text = (readSign text).1.map some ++ (readSign text).2 ∧
      ((readSign text).1 = [] ∨ (readSign text).1 = ['+'] ∨
        (readSign text).1 = ['-']) := by
  fun_cases readSign text with
  | case1 rest => exact ⟨rfl, .inr (.inl rfl)⟩
  | case2 rest => exact ⟨rfl, .inr (.inr rfl)⟩
  | case3 => exact ⟨rfl, .inl rfl⟩

theorem isExponent_of_readExponent?
    (read : readExponent? text = some (exponent, rest)) :
    text = exponent.map some ++ rest ∧ IsExponent exponent := by
  rw [readExponent?.eq_def] at read
  split at read
  · next letter behind =>
    split at read
    · next isLetter =>
      simp only [Option.bind_eq_bind, Option.bind_eq_some_iff,
        Prod.exists] at read
      rcases read with ⟨digits, after, read, found⟩
      cases found
      rcases isDigits_of_readSomeDigits? read with ⟨signed, isDigits⟩
      rcases eq_of_readSign behind with ⟨split, isSign⟩
      refine ⟨?_, .power (by simpa using isLetter) isSign isDigits⟩
      rw [List.cons_append, List.map_cons, List.map_append,
        List.cons_append, List.append_assoc, ← signed, ← split]
    · cases read
      exact ⟨rfl, .missing⟩
  · cases read
    exact ⟨rfl, .missing⟩

theorem isNumber_of_readMagnitude?
    {sign : List Char}
    (isSign : sign = [] ∨ sign = ['-'])
    (read : readMagnitude? text = some (magnitude, rest)) :
    text = magnitude.map some ++ rest ∧ IsNumber (sign ++ magnitude) := by
  simp only [readMagnitude?, Option.bind_eq_bind,
    Option.bind_eq_some_iff, Prod.exists] at read
  rcases read with
    ⟨whole, _, wholeRead, fraction, _, fractionRead, exponent, behind,
      exponentRead, found⟩
  cases found
  rcases isIntegerPart_of_readIntegerPart? wholeRead with ⟨rfl, isWhole⟩
  rcases isFraction_of_readFraction? fractionRead with
    ⟨rfl, isFraction⟩
  rcases isExponent_of_readExponent? exponentRead with
    ⟨rfl, isExponent⟩
  rw [List.append_assoc]
  refine ⟨?_, .parts isSign isWhole isFraction isExponent⟩
  simp only [List.map_append, List.append_assoc]

theorem isNumber_of_readNumber?
    (read : readNumber? text = some (spelling, rest)) :
    text = spelling.map some ++ rest ∧ IsNumber spelling := by
  rw [readNumber?.eq_def] at read
  split at read
  · simp only [Option.bind_eq_bind, Option.bind_eq_some_iff,
      Prod.exists] at read
    rcases read with ⟨magnitude, behind, read, found⟩
    cases found
    rcases isNumber_of_readMagnitude? (.inr rfl) read with
      ⟨rfl, isNumber⟩
    exact ⟨rfl, isNumber⟩
  · exact isNumber_of_readMagnitude? (.inl rfl) read

end Numbers

/-! ## Values -/

section Values

variable
    {text rest : List TextUnit}
    {value : Value}

theorem exists_blanks_afterBlanks
    (text : List TextUnit) :
    ∃ blanks, Blanks blanks ∧ text = blanks ++ afterBlanks text :=
  ⟨text.takeWhile isBlankUnit, fun _ => List.mem_takeWhile_imp,
    List.takeWhile_append_dropWhile.symm⟩

theorem exists_blanks_of_afterBlanks
    (found : afterBlanks text = rest) :
    ∃ blanks, Blanks blanks ∧ text = blanks ++ rest :=
  found ▸ exists_blanks_afterBlanks text

/-- White space in front of a value belongs to it. -/
theorem Spells.spacedBefore
    {blanks units : List TextUnit}
    (white : Blanks blanks)
    (spelled : Spells units (.value value)) :
    Spells (blanks ++ units) (.value value) := by
  have spaced := Spells.spaced white (List.forall_mem_nil _) spelled
  rwa [List.append_nil] at spaced

theorem Spells.spacedAfter
    {blanks units : List TextUnit}
    (white : Blanks blanks)
    (spelled : Spells units (.value value)) :
    Spells (units ++ blanks) (.value value) :=
  Spells.spaced (List.forall_mem_nil _) white spelled

theorem eq_of_afterWord?
    {word : String}
    (read : afterWord? word text = some rest) :
    text = word.toList.map some ++ rest := by
  rw [afterWord?, List.isPrefixOf?_eq_some_iff_append_eq] at read
  exact read.symm

theorem exists_spells_of_readPlain?
    (read : readPlain? text = some (value, rest)) :
    ∃ units, text = units ++ rest ∧ Spells units (.value value) := by
  rw [readPlain?] at read
  split at read
  · next wordRead =>
    cases read
    exact ⟨_, eq_of_afterWord? wordRead, .nullWord⟩
  · split at read
    · next wordRead =>
      cases read
      exact ⟨_, eq_of_afterWord? wordRead, .trueWord⟩
    · split at read
      · next wordRead =>
        cases read
        exact ⟨_, eq_of_afterWord? wordRead, .falseWord⟩
      · simp only [Option.map_eq_some_iff, Prod.exists] at read
        rcases read with ⟨spelling, behind, read, found⟩
        cases found
        rcases isNumber_of_readNumber? read with ⟨rfl, isNumber⟩
        exact ⟨_, rfl, .number isNumber⟩

/-- The name of a member is spelled up to the colon behind it. -/
theorem exists_spellsLiteral_of_readName?
    {name : Literal}
    (read : readMembers?.readName? text = some (name, rest)) :
    ∃ units blanks,
      text = units ++ (blanks ++ some ':' :: rest) ∧
        SpellsLiteral units name ∧ Blanks blanks := by
  rw [readMembers?.readName?.eq_def] at read
  split at read
  · next quoted =>
    simp only [Option.bind_eq_bind, Option.bind_eq_some_iff,
      Prod.exists] at read
    rcases read with ⟨literal, behind, literalRead, read⟩
    rcases exists_spellsLiteral_of_readLiteral? literalRead with
      ⟨units, spelling, isName⟩
    split at read
    · next colon =>
      cases read
      rcases exists_blanks_of_afterBlanks colon with ⟨blanks, white, rfl⟩
      exact ⟨units, blanks, spelling, isName, white⟩
    · exact nomatch read
  · exact nomatch read

/-- What is read with this many rounds is spelled, up to the closing bracket of the
items or members. -/
structure ReadsSpelled
    (rounds : Nat) : Prop where
  value :
    ∀ {text rest : List TextUnit} {value : Value},
      readValue? rounds text = some (value, rest) →
        ∃ units, text = units ++ rest ∧ Spells units (.value value)
  items :
    ∀ {text rest : List TextUnit} {items : List Value},
      readItems? rounds text = some (items, rest) →
        ∃ units,
          text = units ++ some ']' :: rest ∧
            Spells units (.items items)
  members :
    ∀ {text rest : List TextUnit} {members : List (Literal × Value)},
      readMembers? rounds text = some (members, rest) →
        ∃ units,
          text = units ++ some '}' :: rest ∧
            Spells units (.members members)

namespace ReadsSpelled

variable
    {rounds : Nat}
    (reads : ReadsSpelled rounds)

include reads

/-- An object is spelled by its braces and what is read between them. -/
theorem value_object
    (read :
      (match afterBlanks text with
        | some '}' :: rest => some (Value.object [], rest)
        | behind =>
            (readMembers? rounds behind).map fun (members, rest) =>
              (.object members, rest)) =
        some (value, rest)) :
    ∃ units,
      some '{' :: text = units ++ rest ∧
        Spells units (.value value) := by
  split at read
  · next closing =>
    cases read
    rcases exists_blanks_of_afterBlanks closing with ⟨blanks, white, rfl⟩
    refine
      ⟨some '{' :: (blanks ++ [some '}']), ?_, .emptyObject white⟩
    simp
  · rw [readMembers?_afterBlanks] at read
    simp only [Option.map_eq_some_iff, Prod.exists] at read
    rcases read with ⟨members, behind, read, found⟩
    cases found
    rcases reads.members read with ⟨units, rfl, spelled⟩
    refine ⟨some '{' :: (units ++ [some '}']), ?_, .object spelled⟩
    simp

theorem value_array
    (read :
      (match afterBlanks text with
        | some ']' :: rest => some (Value.array [], rest)
        | behind =>
            (readItems? rounds behind).map fun (items, rest) =>
              (.array items, rest)) =
        some (value, rest)) :
    ∃ units,
      some '[' :: text = units ++ rest ∧
        Spells units (.value value) := by
  split at read
  · next closing =>
    cases read
    rcases exists_blanks_of_afterBlanks closing with ⟨blanks, white, rfl⟩
    refine
      ⟨some '[' :: (blanks ++ [some ']']), ?_, .emptyArray white⟩
    simp
  · rw [readItems?_afterBlanks] at read
    simp only [Option.map_eq_some_iff, Prod.exists] at read
    rcases read with ⟨items, behind, read, found⟩
    cases found
    rcases reads.items read with ⟨units, rfl, spelled⟩
    refine ⟨some '[' :: (units ++ [some ']']), ?_, .array spelled⟩
    simp

theorem value_succ
    (read : readValue? (rounds + 1) text = some (value, rest)) :
    ∃ units, text = units ++ rest ∧ Spells units (.value value) := by
  have visible :
      ∃ units,
        afterBlanks text = units ++ rest ∧
          Spells units (.value value) := by
    rw [readValue?] at read
    split at read
    · next opening =>
      rw [opening]
      exact reads.value_object read
    · next opening =>
      rw [opening]
      exact reads.value_array read
    · next opening =>
      simp only [Option.map_eq_some_iff, Prod.exists] at read
      rcases read with ⟨literal, behind, read, found⟩
      cases found
      rcases exists_spellsLiteral_of_readLiteral? read with
        ⟨units, spelling, spelled⟩
      rw [opening]
      exact ⟨units, spelling, .text spelled⟩
    · exact exists_spells_of_readPlain? read
  rcases visible with ⟨units, front, spelled⟩
  rcases exists_blanks_of_afterBlanks front with ⟨blanks, white, rfl⟩
  rw [← List.append_assoc]
  exact ⟨_, rfl, spelled.spacedBefore white⟩

theorem items_succ
    {items : List Value}
    (read : readItems? (rounds + 1) text = some (items, rest)) :
    ∃ units,
      text = units ++ some ']' :: rest ∧ Spells units (.items items) := by
  rw [readItems?] at read
  split at read
  · cases read
  · next item behind valueRead =>
    rcases reads.value valueRead with ⟨units, rfl, spelled⟩
    split at read
    · next comma =>
      simp only [Option.map_eq_some_iff, Prod.exists] at read
      rcases read with ⟨others, after, read, found⟩
      cases found
      rcases exists_blanks_of_afterBlanks comma with ⟨blanks, white, rfl⟩
      rcases reads.items read with ⟨otherUnits, rfl, otherSpelled⟩
      refine
        ⟨_, ?_, .nextItem (spelled.spacedAfter white) otherSpelled⟩
      simp
    · next closing =>
      cases read
      rcases exists_blanks_of_afterBlanks closing with
        ⟨blanks, white, rfl⟩
      refine ⟨_, ?_, .lastItem (spelled.spacedAfter white)⟩
      simp
    · cases read

theorem members_succ
    {members : List (Literal × Value)}
    (read : readMembers? (rounds + 1) text = some (members, rest)) :
    ∃ units,
      text = units ++ some '}' :: rest ∧
        Spells units (.members members) := by
  rw [readMembers?] at read
  split at read
  · cases read
  · next name behind nameRead =>
    rcases exists_blanks_afterBlanks text with ⟨before, whiteBefore, front⟩
    rcases exists_spellsLiteral_of_readName? nameRead with
      ⟨nameUnits, after, nameSpelling, isName, whiteAfter⟩
    rw [nameSpelling] at front
    subst front
    split at read
    · cases read
    · next memberValue _ valueRead =>
      rcases reads.value valueRead with ⟨valueUnits, rfl, spelled⟩
      split at read
      · next comma =>
        simp only [Option.map_eq_some_iff, Prod.exists] at read
        rcases read with ⟨others, _, read, found⟩
        cases found
        rcases exists_blanks_of_afterBlanks comma with
          ⟨blanks, white, rfl⟩
        rcases reads.members read with ⟨otherUnits, rfl, otherSpelled⟩
        have first :=
          Spells.member whiteBefore whiteAfter isName
            (spelled.spacedAfter white)
        refine ⟨_, ?_, .nextMember first otherSpelled⟩
        simp
      · next closing =>
        cases read
        rcases exists_blanks_of_afterBlanks closing with
          ⟨blanks, white, rfl⟩
        have last :=
          Spells.member whiteBefore whiteAfter isName
            (spelled.spacedAfter white)
        refine ⟨_, ?_, .lastMember last⟩
        simp
      · cases read

end ReadsSpelled

theorem readsSpelled
    (rounds : Nat) :
    ReadsSpelled rounds := by
  induction rounds with
  | zero => exact ⟨nofun, nofun, nofun⟩
  | succ rounds ih =>
      exact
        { value := ih.value_succ
          items := ih.items_succ
          members := ih.members_succ }

/-- A text is parsed as a value exactly when it spells the value. -/
theorem parseUnits?_eq_some_iff :
    parseUnits? text = some value ↔ Spells text (.value value) := by
  refine ⟨?_, parseUnits?_of_spells⟩
  intro parsed
  rw [parseUnits?] at parsed
  split at parsed
  · next found behind read =>
    split at parsed
    · next atEnd =>
      cases parsed
      rcases (readsSpelled _).value read with ⟨units, rfl, spelled⟩
      have white : Blanks behind :=
        List.dropWhile_eq_nil_iff.mp (List.isEmpty_iff.mp atEnd)
      exact spelled.spacedAfter white
    · cases parsed
  · cases parsed

/-- A text spells one value at most. -/
theorem Spells.unique
    {other : Value}
    (spelled : Spells text (.value value))
    (otherSpelled : Spells text (.value other)) :
    value = other := by
  have parsed := parseUnits?_of_spells spelled
  rw [parseUnits?_of_spells otherSpelled] at parsed
  exact (Option.some.inj parsed).symm

end Values

/-! ## Texts -/

/-- The text is a JSON text that spells the value. -/
def SpellsText
    (text : String)
    (value : Value) : Prop :=
  Spells (text.toList.map some) (.value value)

theorem parse?_eq_some_iff
    {text : String}
    {value : Value} :
    parse? text = some value ↔ SpellsText text value :=
  parseUnits?_eq_some_iff

/-- A parser of JSON takes every JSON text, made of texts throughout, for the value
that it spells.  What it makes of the value is its own business: `view` may forget
the order of members or keep numbers in another form. -/
structure IsJsonParser
    {β : Type}
    (view : Value → β)
    (parser : String → Option β) : Prop where
  reads :
    ∀ text value,
      SpellsText text value →
        value.IsPrintable → parser text = some (view value)

theorem isJsonParser_parse? :
    IsJsonParser id parse? :=
  ⟨fun _ _ spelled _ => parse?_eq_some_iff.mpr spelled⟩

/-- Every parser reads compact text as the value it was printed from. -/
theorem IsJsonParser.compact
    {β : Type}
    {view : Value → β}
    {parser : String → Option β}
    (isParser : IsJsonParser view parser)
    {value : Value}
    (printable : value.IsPrintable) :
    parser value.compact = some (view value) :=
  isParser.reads _ _
    (parse?_eq_some_iff.mp (parse?_compact printable)) printable

end TestScribe.Json

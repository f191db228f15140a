import Mathlib.Data.List.DropRight
import TestScribe.Proofs.Json.Literal
import TestScribe.Proofs.Json.Number

/-!
# JSON texts and their reader

A JSON text is spelled by one grammar for values, for the items between brackets
and for the members between braces, with white space between any two tokens.  The
reader reads whatever the grammar spells, however deep it goes: the induction is
on the spelling, and the rounds suffice since every value inside is shorter than
what it stands in.  As the reader answers with one value, a text spells no other.
-/

namespace TestScribe.Json

open TestScribe.Text

/-! ## Spelling -/

/-- White space between tokens. -/
def Blanks
    (units : List TextUnit) : Prop :=
  ∀ unit ∈ units, isBlankUnit unit = true

/-- The parts of a JSON text. -/
inductive Part where
  | value (value : Value)
  /-- What stands between the brackets of an array that is not empty. -/
  | items (items : List Value)
  | member (name : Literal) (value : Value)
  /-- What stands between the braces of an object that is not empty. -/
  | members (members : List (Literal × Value))

/-- How the parts of a JSON text are spelled. -/
inductive Spells :
    List TextUnit → Part → Prop where
  | spaced
      {before units after : List TextUnit}
      {value : Value}
      (whiteBefore : Blanks before)
      (whiteAfter : Blanks after)
      (spelled : Spells units (.value value)) :
      Spells (before ++ (units ++ after)) (.value value)
  | nullWord : Spells ("null".toList.map some) (.value .null)
  | trueWord : Spells ("true".toList.map some) (.value (.boolean true))
  | falseWord : Spells ("false".toList.map some) (.value (.boolean false))
  | number
      {spelling : List Char}
      (isNumber : IsNumber spelling) :
      Spells (spelling.map some)
        (.value (.number (String.ofList spelling)))
  | text
      {units : List TextUnit}
      {literal : Literal}
      (isLiteral : SpellsLiteral units literal) :
      Spells units (.value (.text literal))
  | emptyArray
      {blanks : List TextUnit}
      (white : Blanks blanks) :
      Spells (some '[' :: (blanks ++ [some ']'])) (.value (.array []))
  | array
      {units : List TextUnit}
      {items : List Value}
      (spelled : Spells units (.items items)) :
      Spells (some '[' :: (units ++ [some ']'])) (.value (.array items))
  | emptyObject
      {blanks : List TextUnit}
      (white : Blanks blanks) :
      Spells (some '{' :: (blanks ++ [some '}'])) (.value (.object []))
  | object
      {units : List TextUnit}
      {members : List (Literal × Value)}
      (spelled : Spells units (.members members)) :
      Spells (some '{' :: (units ++ [some '}']))
        (.value (.object members))
  | lastItem
      {units : List TextUnit}
      {item : Value}
      (spelled : Spells units (.value item)) :
      Spells units (.items [item])
  | nextItem
      {units rest : List TextUnit}
      {item : Value}
      {items : List Value}
      (spelled : Spells units (.value item))
      (others : Spells rest (.items items)) :
      Spells (units ++ some ',' :: rest) (.items (item :: items))
  | member
      {before units after rest : List TextUnit}
      {name : Literal}
      {value : Value}
      (whiteBefore : Blanks before)
      (whiteAfter : Blanks after)
      (isName : SpellsLiteral units name)
      (spelled : Spells rest (.value value)) :
      Spells (before ++ (units ++ (after ++ some ':' :: rest)))
        (.member name value)
  | lastMember
      {units : List TextUnit}
      {name : Literal}
      {value : Value}
      (spelled : Spells units (.member name value)) :
      Spells units (.members [(name, value)])
  | nextMember
      {units rest : List TextUnit}
      {name : Literal}
      {value : Value}
      {members : List (Literal × Value)}
      (spelled : Spells units (.member name value))
      (others : Spells rest (.members members)) :
      Spells (units ++ some ',' :: rest)
        (.members ((name, value) :: members))

/-! ## White space -/

section WhiteSpace

variable
    {blanks rest : List TextUnit}
    {first : TextUnit}

theorem afterBlanks_append
    (white : Blanks blanks)
    (rest : List TextUnit) :
    afterBlanks (blanks ++ rest) = afterBlanks rest :=
  List.dropWhile_append_of_pos white

theorem afterBlanks_cons
    (visible : isBlankUnit first = false)
    (rest : List TextUnit) :
    afterBlanks (first :: rest) = first :: rest := by
  rw [afterBlanks, List.dropWhile_cons, visible]
  rfl

theorem afterBlanks_append_cons
    (white : Blanks blanks)
    (visible : isBlankUnit first = false)
    (rest : List TextUnit) :
    afterBlanks (blanks ++ first :: rest) = first :: rest := by
  rw [afterBlanks_append white, afterBlanks_cons visible]

theorem afterBlanks_afterBlanks
    (text : List TextUnit) :
    afterBlanks (afterBlanks text) = afterBlanks text :=
  List.dropWhile_idempotent _ _

theorem readValue?_afterBlanks
    (rounds : Nat)
    (text : List TextUnit) :
    readValue? rounds (afterBlanks text) = readValue? rounds text := by
  cases rounds with
  | zero => rfl
  | succ rounds => rw [readValue?, readValue?, afterBlanks_afterBlanks]

theorem readItems?_afterBlanks
    (rounds : Nat)
    (text : List TextUnit) :
    readItems? rounds (afterBlanks text) = readItems? rounds text := by
  cases rounds with
  | zero => rfl
  | succ rounds => rw [readItems?, readItems?, readValue?_afterBlanks]

theorem readMembers?_afterBlanks
    (rounds : Nat)
    (text : List TextUnit) :
    readMembers? rounds (afterBlanks text) =
      readMembers? rounds text := by
  cases rounds with
  | zero => rfl
  | succ rounds =>
      rw [readMembers?, readMembers?, afterBlanks_afterBlanks]

/-- White space continues no number. -/
theorem StopsNumber.of_blanks
    (white : Blanks blanks)
    (stops : StopsNumber rest) :
    StopsNumber (blanks ++ rest) := by
  cases blanks with
  | nil => exact stops
  | cons unit blanks =>
      have isBlank := white unit List.mem_cons_self
      apply forall_mem_head?_cons
      simp only [isBlankUnit, Bool.or_eq_true, beq_iff_eq] at isBlank
      rcases isBlank with ((rfl | rfl) | rfl) | rfl <;> decide

theorem stopsNumber_cons
    {character : Char}
    (noDigit : character.isDigit = false)
    (noMark : character ∉ ['.', 'e', 'E'])
    (rest : List TextUnit) :
    StopsNumber (some character :: rest) := by
  apply forall_mem_head?_cons
  simpa [isDigitUnit, noDigit] using noMark

end WhiteSpace

/-! ## Values that hold no others -/

section Plain

variable
    {rounds : Nat}
    {rest : List TextUnit}

/-- A word is not read where another character than its first one stands. -/
theorem afterWord?_cons_of_ne
    {word : String}
    {initial first : Char}
    (begins : word.toList.head? = some initial)
    (differs : initial ≠ first)
    (rest : List TextUnit) :
    afterWord? word (some first :: rest) = none := by
  rcases List.head?_eq_some_iff.mp begins with ⟨others, letters⟩
  cases read : afterWord? word (some first :: rest) with
  | none => rfl
  | some behind =>
      rw [afterWord?, letters, List.isPrefixOf?_eq_some_iff_append_eq,
        List.map_cons, List.cons_append, List.cons.injEq] at read
      exact absurd (Option.some.inj read.1) differs

/-- What begins with no brace, bracket or quote is read as a plain value. -/
theorem readValue?_plain
    {first : Char}
    (visible : isBlankUnit (some first) = false)
    (plain : first ∉ ['{', '[', '"']) :
    readValue? (rounds + 1) (some first :: rest) =
      readPlain? (some first :: rest) := by
  rw [readValue?, afterBlanks_cons visible]
  split
  · next begins =>
    cases begins
    exact absurd (by decide) plain
  · next begins =>
    cases begins
    exact absurd (by decide) plain
  · next begins =>
    cases begins
    exact absurd (by decide) plain
  · rfl

theorem IsNumber.exists_cons
    {spelling : List Char}
    (isNumber : IsNumber spelling) :
    ∃ first others,
      spelling = first :: others ∧
        (first = '-' ∨ first.isDigit = true) := by
  cases isNumber with
  | parts isSign isWhole _ _ =>
      rcases isSign with rfl | rfl
      · rcases isWhole.exists_cons with ⟨first, others, rfl, isDigit⟩
        exact ⟨first, _, rfl, .inr isDigit⟩
      · exact ⟨'-', _, rfl, .inl rfl⟩

/-- A number begins with a character that begins nothing else. -/
theorem begins_number
    {first : Char}
    (begins : first = '-' ∨ first.isDigit = true) :
    isBlankUnit (some first) = false ∧
      first ∉ ['{', '[', '"', ']', '}', 'n', 't', 'f'] := by
  have others :
      [' ', '\t', '\n', '\r', '{', '[', '"', ']', '}', 'n', 't', 'f'].all
        (fun other => !(other == '-' || other.isDigit)) = true := by
    decide
  have notOther :
      first ∉ [' ', '\t', '\n', '\r', '{', '[', '"', ']', '}', 'n', 't',
        'f'] := by
    intro member
    have neither := List.all_eq_true.mp others first member
    rw [Bool.not_eq_true', Bool.or_eq_false_iff, beq_eq_false_iff_ne]
      at neither
    rcases begins with isSign | isDigit
    · exact neither.1 isSign
    · rw [neither.2] at isDigit
      exact nomatch isDigit
  simp only [List.mem_cons, List.not_mem_nil, or_false, not_or]
    at notOther
  simp [isBlankUnit, notOther]

theorem IsNumber.readValue?_append
    {spelling : List Char}
    (isNumber : IsNumber spelling)
    (stops : StopsNumber rest) :
    readValue? (rounds + 1) (spelling.map some ++ rest) =
      some (.number (String.ofList spelling), rest) := by
  have read := isNumber.readNumber?_append stops
  rcases isNumber.exists_cons with ⟨first, others, rfl, begins⟩
  rcases begins_number begins with ⟨visible, other⟩
  simp only [List.mem_cons, List.not_mem_nil, or_false, not_or] at other
  rw [List.map_cons, List.cons_append] at read ⊢
  have noWord
      {word : String}
      (initial : Char)
      (isInitial : word.toList.head? = some initial)
      (differs : first ≠ initial) :
      afterWord? word (some first :: (others.map some ++ rest)) = none :=
    afterWord?_cons_of_ne isInitial differs.symm _
  rw [readValue?_plain visible (by simp [other]), readPlain?,
    noWord 'n' (by decide) (by simp [other]),
    noWord 't' (by decide) (by simp [other]),
    noWord 'f' (by decide) (by simp [other]), read]
  rfl

end Plain

/-! ## The first unit -/

/-- Behind white space a part begins with a unit that closes no bracket. -/
theorem Spells.exists_front
    {units : List TextUnit}
    {part : Part}
    (spelled : Spells units part) :
    ∃ blanks first behind,
      units = blanks ++ first :: behind ∧
        Blanks blanks ∧
          isBlankUnit first = false ∧
            first ≠ some ']' ∧ first ≠ some '}' := by
  induction spelled with
  | @spaced before units after value whiteBefore whiteAfter spelled ih =>
      rcases ih with ⟨blanks, first, behind, rfl, white, visible⟩
      refine
        ⟨before ++ blanks, first, behind ++ after, ?_, ?_, visible⟩
      · simp only [List.append_assoc, List.cons_append]
      · exact List.forall_mem_append.mpr ⟨whiteBefore, white⟩
  | nullWord => exact ⟨[], some 'n', _, rfl, nofun, by decide⟩
  | trueWord => exact ⟨[], some 't', _, rfl, nofun, by decide⟩
  | falseWord => exact ⟨[], some 'f', _, rfl, nofun, by decide⟩
  | number isNumber =>
      rcases isNumber.exists_cons with ⟨first, others, rfl, begins⟩
      rcases begins_number begins with ⟨visible, other⟩
      refine ⟨[], some first, _, rfl, nofun, visible, ?_⟩
      simp only [List.mem_cons, List.not_mem_nil, or_false, not_or]
        at other
      simp [other]
  | text isLiteral =>
      rcases isLiteral.readLiteral?_append with ⟨inner, rfl, -⟩
      exact ⟨[], some '"', inner, rfl, nofun, by decide⟩
  | emptyArray white => exact ⟨[], some '[', _, rfl, nofun, by decide⟩
  | array spelled => exact ⟨[], some '[', _, rfl, nofun, by decide⟩
  | emptyObject white => exact ⟨[], some '{', _, rfl, nofun, by decide⟩
  | object spelled => exact ⟨[], some '{', _, rfl, nofun, by decide⟩
  | lastItem spelled ih => exact ih
  | nextItem spelled others ih =>
      rcases ih with ⟨blanks, first, behind, rfl, white, visible⟩
      exact
        ⟨blanks, first, _, List.append_assoc _ _ _, white, visible⟩
  | @member before units after rest name value whiteBefore whiteAfter
      isName spelled =>
      rcases isName.readLiteral?_append with ⟨inner, rfl, -⟩
      exact
        ⟨before, some '"', inner ++ (after ++ some ':' :: rest), rfl,
          whiteBefore, by decide⟩
  | lastMember spelled ih => exact ih
  | nextMember spelled others ih =>
      rcases ih with ⟨blanks, first, behind, rfl, white, visible⟩
      exact
        ⟨blanks, first, _, List.append_assoc _ _ _, white, visible⟩

/-- Without the white space in front, the text of a part begins with a unit that
closes no bracket. -/
theorem Spells.afterBlanks_append
    {units : List TextUnit}
    {part : Part}
    (spelled : Spells units part) :
    ∃ first behind,
      (∀ rest, afterBlanks (units ++ rest) = first :: (behind ++ rest)) ∧
        first ≠ some ']' ∧ first ≠ some '}' := by
  rcases spelled.exists_front with
    ⟨blanks, first, behind, rfl, white, visible, closesNone⟩
  refine ⟨first, behind, ?_, closesNone⟩
  intro rest
  rw [List.append_assoc, List.cons_append,
    afterBlanks_append_cons white visible]

/-! ## Reading what is spelled -/

/-- The reader reads the part, where as many rounds are left as its length
needs. -/
def Reads
    (units : List TextUnit) :
    Part → Prop
  | .value value =>
      ∀ rounds rest,
        2 * units.length ≤ rounds →
          StopsNumber rest →
            ∃ blanks,
              Blanks blanks ∧
                readValue? rounds (units ++ rest) =
                  some (value, blanks ++ rest)
  | .items items =>
      ∀ rounds rest,
        2 * units.length + 1 ≤ rounds →
          readItems? rounds (units ++ some ']' :: rest) =
            some (items, rest)
  | .member name value =>
      ∀ rounds rest,
        2 * units.length ≤ rounds →
          StopsNumber rest →
            ∃ middle blanks,
              readMembers?.readName? (afterBlanks (units ++ rest)) =
                  some (name, middle) ∧
                Blanks blanks ∧
                  readValue? rounds middle =
                    some (value, blanks ++ rest)
  | .members members =>
      ∀ rounds rest,
        2 * units.length + 1 ≤ rounds →
          readMembers? rounds (units ++ some '}' :: rest) =
            some (members, rest)

section Reads

variable
    {rounds : Nat}
    {units rest : List TextUnit}

/-- Behind an opening bracket no closing one stands where items are spelled. -/
theorem readValue?_array
    {items : List Value}
    (spelled : Spells units (.items items))
    (read :
      readItems? rounds (units ++ some ']' :: rest) =
        some (items, rest)) :
    readValue? (rounds + 1)
        (some '[' :: (units ++ some ']' :: rest)) =
      some (.array items, rest) := by
  rcases spelled.afterBlanks_append with
    ⟨first, behind, front, notBracket, -⟩
  rw [← readItems?_afterBlanks, front] at read
  rw [readValue?, afterBlanks_cons (by decide)]
  simp only [front]
  split
  · next begins => exact absurd (List.cons.inj begins).1 notBracket
  · rw [read]
    rfl

theorem readValue?_object
    {members : List (Literal × Value)}
    (spelled : Spells units (.members members))
    (read :
      readMembers? rounds (units ++ some '}' :: rest) =
        some (members, rest)) :
    readValue? (rounds + 1)
        (some '{' :: (units ++ some '}' :: rest)) =
      some (.object members, rest) := by
  rcases spelled.afterBlanks_append with
    ⟨first, behind, front, -, notBrace⟩
  rw [← readMembers?_afterBlanks, front] at read
  rw [readValue?, afterBlanks_cons (by decide)]
  simp only [front]
  split
  · next begins => exact absurd (List.cons.inj begins).1 notBrace
  · rw [read]
    rfl

/-- A value is read if it is read with one round and those that are left. -/
theorem reads_value
    {value : Value}
    (nonempty : units ≠ [])
    (read :
      ∀ rounds rest,
        2 * units.length ≤ rounds + 1 →
          StopsNumber rest →
            readValue? (rounds + 1) (units ++ rest) =
              some (value, rest)) :
    Reads units (.value value) := by
  intro rounds rest enough stops
  have some_unit := List.length_pos_iff.mpr nonempty
  cases rounds with
  | zero => omega
  | succ rounds =>
      exact
        ⟨[], List.forall_mem_nil _, read rounds rest enough stops⟩

/-- White space around a value is read with it. -/
theorem Reads.spaced
    {before after : List TextUnit}
    {value : Value}
    (whiteBefore : Blanks before)
    (whiteAfter : Blanks after)
    (reads : Reads units (.value value)) :
    Reads (before ++ (units ++ after)) (.value value) := by
  intro rounds rest enough stops
  rw [List.length_append, List.length_append] at enough
  rcases reads rounds (after ++ rest) (by omega)
      (stops.of_blanks whiteAfter) with
    ⟨blanks, white, read⟩
  refine
    ⟨blanks ++ after, List.forall_mem_append.mpr ⟨white, whiteAfter⟩, ?_⟩
  rw [List.append_assoc, List.append_assoc, List.append_assoc,
    ← readValue?_afterBlanks, afterBlanks_append whiteBefore,
    readValue?_afterBlanks, read]

/-- The reader reads whatever is spelled. -/
theorem Spells.reads
    {part : Part}
    (spelled : Spells units part) :
    Reads units part := by
  induction spelled with
  | spaced whiteBefore whiteAfter spelled ih =>
      exact ih.spaced whiteBefore whiteAfter
  | nullWord =>
      apply reads_value (by decide)
      intro rounds rest _ _
      exact readValue?_plain (by decide) (by decide)
  | trueWord =>
      apply reads_value (by decide)
      intro rounds rest _ _
      exact readValue?_plain (by decide) (by decide)
  | falseWord =>
      apply reads_value (by decide)
      intro rounds rest _ _
      exact readValue?_plain (by decide) (by decide)
  | number isNumber =>
      rcases isNumber.exists_cons with ⟨first, others, rfl, -⟩
      apply reads_value (List.cons_ne_nil _ _)
      intro rounds rest _ stops
      exact isNumber.readValue?_append stops
  | text isLiteral =>
      rcases isLiteral.readLiteral?_append with ⟨inner, rfl, read⟩
      apply reads_value (List.cons_ne_nil _ _)
      intro rounds rest _ _
      rw [List.cons_append, readValue?, afterBlanks_cons (by decide)]
      simp only [read]
      rfl
  | @emptyArray blanks white =>
      apply reads_value (List.cons_ne_nil _ _)
      intro rounds rest _ _
      have closing :
          afterBlanks (blanks ++ some ']' :: rest) = some ']' :: rest :=
        afterBlanks_append_cons white (by decide) rest
      rw [List.cons_append, List.append_assoc, List.singleton_append,
        readValue?, afterBlanks_cons (by decide)]
      simp only [closing]
  | @array units items spelled ih =>
      apply reads_value (List.cons_ne_nil _ _)
      intro rounds rest enough _
      rw [List.length_cons, List.length_append] at enough
      rw [List.cons_append, List.append_assoc, List.singleton_append]
      exact readValue?_array spelled (ih rounds rest (by omega))
  | @emptyObject blanks white =>
      apply reads_value (List.cons_ne_nil _ _)
      intro rounds rest _ _
      have closing :
          afterBlanks (blanks ++ some '}' :: rest) = some '}' :: rest :=
        afterBlanks_append_cons white (by decide) rest
      rw [List.cons_append, List.append_assoc, List.singleton_append,
        readValue?, afterBlanks_cons (by decide)]
      simp only [closing]
  | @object units members spelled ih =>
      apply reads_value (List.cons_ne_nil _ _)
      intro rounds rest enough _
      rw [List.length_cons, List.length_append] at enough
      rw [List.cons_append, List.append_assoc, List.singleton_append]
      exact readValue?_object spelled (ih rounds rest (by omega))
  | lastItem spelled ih =>
      intro rounds rest enough
      cases rounds with
      | zero => omega
      | succ rounds =>
          rcases ih rounds (some ']' :: rest) (by omega)
              (stopsNumber_cons (by decide) (by decide) rest) with
            ⟨blanks, white, read⟩
          have closing :
              afterBlanks (blanks ++ some ']' :: rest) =
                some ']' :: rest :=
            afterBlanks_append_cons white (by decide) rest
          rw [readItems?, read]
          simp only [closing]
  | @nextItem units others item items spelled _ ih othersIh =>
      intro rounds rest enough
      rw [List.length_append, List.length_cons] at enough
      cases rounds with
      | zero => omega
      | succ rounds =>
          rcases ih rounds (some ',' :: (others ++ some ']' :: rest))
              (by omega) (stopsNumber_cons (by decide) (by decide) _) with
            ⟨blanks, white, read⟩
          have comma :
              afterBlanks
                  (blanks ++ some ',' :: (others ++ some ']' :: rest)) =
                some ',' :: (others ++ some ']' :: rest) :=
            afterBlanks_append_cons white (by decide) _
          rw [List.append_assoc, List.cons_append, readItems?, read]
          simp only [comma, othersIh rounds rest (by omega),
            Option.map_some]
  | @member before units after behind name value whiteBefore whiteAfter
      isName spelled ih =>
      intro rounds rest enough stops
      simp only [List.length_append, List.length_cons] at enough
      rcases isName.readLiteral?_append with ⟨inner, rfl, read⟩
      rcases ih rounds rest (by omega) stops with
        ⟨blanks, white, valueRead⟩
      refine ⟨behind ++ rest, blanks, ?_, white, valueRead⟩
      have colon :
          afterBlanks (after ++ some ':' :: (behind ++ rest)) =
            some ':' :: (behind ++ rest) :=
        afterBlanks_append_cons whiteAfter (by decide) _
      simp only [List.append_assoc, List.cons_append]
      rw [afterBlanks_append_cons whiteBefore (by decide),
        readMembers?.readName?, read]
      simp only [Option.bind_eq_bind, Option.bind_some, colon]
      rfl
  | lastMember spelled ih =>
      intro rounds rest enough
      cases rounds with
      | zero => omega
      | succ rounds =>
          rcases ih rounds (some '}' :: rest) (by omega)
              (stopsNumber_cons (by decide) (by decide) rest) with
            ⟨middle, blanks, nameRead, white, read⟩
          have closing :
              afterBlanks (blanks ++ some '}' :: rest) =
                some '}' :: rest :=
            afterBlanks_append_cons white (by decide) rest
          rw [readMembers?, nameRead]
          simp only [read, closing]
  | @nextMember units others name value members spelled _ ih othersIh =>
      intro rounds rest enough
      rw [List.length_append, List.length_cons] at enough
      cases rounds with
      | zero => omega
      | succ rounds =>
          rcases ih rounds (some ',' :: (others ++ some '}' :: rest))
              (by omega) (stopsNumber_cons (by decide) (by decide) _) with
            ⟨middle, blanks, nameRead, white, read⟩
          have comma :
              afterBlanks
                  (blanks ++ some ',' :: (others ++ some '}' :: rest)) =
                some ',' :: (others ++ some '}' :: rest) :=
            afterBlanks_append_cons white (by decide) _
          rw [List.append_assoc, List.cons_append, readMembers?, nameRead]
          simp only [read, comma, othersIh rounds rest (by omega),
            Option.map_some]

end Reads

/-- A text that spells a value is parsed as that value. -/
theorem parseUnits?_of_spells
    {units : List TextUnit}
    {value : Value}
    (spelled : Spells units (.value value)) :
    parseUnits? units = some value := by
  rcases spelled.reads (2 * units.length + 2) [] (by omega) nofun with
    ⟨blanks, white, read⟩
  rw [List.append_nil, List.append_nil] at read
  have atEnd : afterBlanks blanks = [] :=
    List.dropWhile_eq_nil_iff.mpr white
  rw [parseUnits?, read]
  simp [atEnd]

end TestScribe.Json

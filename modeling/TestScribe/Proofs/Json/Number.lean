import Mathlib.Algebra.Group.Nat.Defs
import Mathlib.Data.List.TakeWhile
import TestScribe.Json.Reader
import TestScribe.Proofs.Text.Run

/-!
# Numbers in JSON

A number is a sign, an integer part, a fraction and an exponent, of which only
the integer part has to be there.  The reader takes each part as far as it goes,
so it reads a number whole where nothing follows that could continue one.  The
decimal digits of a natural number are such a number, and count to it.
-/

namespace TestScribe.Json

open TestScribe.Text

/-! ## Spelling -/

/-- Decimal digits, of which there is at least one. -/
structure IsDigits
    (digits : List Char) : Prop where
  nonempty : digits ≠ []
  digit : ∀ character ∈ digits, character.isDigit = true

/-- The integer part of a number has no zero in front of other digits. -/
inductive IsIntegerPart :
    List Char → Prop where
  | zero : IsIntegerPart ['0']
  | digits
      {digits : List Char}
      (isDigits : IsDigits digits)
      (noZero : digits.head? ≠ some '0') :
      IsIntegerPart digits

/-- A fraction, which may be missing. -/
inductive IsFraction :
    List Char → Prop where
  | missing : IsFraction []
  | point
      {digits : List Char}
      (isDigits : IsDigits digits) :
      IsFraction ('.' :: digits)

/-- An exponent, which may be missing. -/
inductive IsExponent :
    List Char → Prop where
  | missing : IsExponent []
  | power
      {letter : Char}
      {sign digits : List Char}
      (isLetter : letter = 'e' ∨ letter = 'E')
      (isSign : sign = [] ∨ sign = ['+'] ∨ sign = ['-'])
      (isDigits : IsDigits digits) :
      IsExponent (letter :: (sign ++ digits))

/-- A number as it is spelled. -/
inductive IsNumber :
    List Char → Prop where
  | parts
      {sign whole fraction exponent : List Char}
      (isSign : sign = [] ∨ sign = ['-'])
      (isWhole : IsIntegerPart whole)
      (isFraction : IsFraction fraction)
      (isExponent : IsExponent exponent) :
      IsNumber (sign ++ (whole ++ (fraction ++ exponent)))

/-- The units do not continue a number in front of them. -/
def StopsNumber
    (rest : List TextUnit) : Prop :=
  ∀ unit ∈ rest.head?,
    isDigitUnit unit = false ∧
      unit ≠ some '.' ∧ unit ≠ some 'e' ∧ unit ≠ some 'E'

/-! ## Reading -/

variable
    {digits whole fraction exponent spelling : List Char}
    {rest : List TextUnit}

theorem charactersOf_map_some
    (text : List Char) :
    charactersOf (text.map some) = text := by
  simp [charactersOf, List.filterMap_map]

/-- Digits are read up to the first unit that is none. -/
theorem readSomeDigits?_append
    (isDigits : IsDigits digits)
    (boundary : ∀ unit ∈ rest.head?, isDigitUnit unit = false) :
    readSomeDigits? (digits.map some ++ rest) = some (digits, rest) := by
  have inside :
      ∀ unit ∈ digits.map some, isDigitUnit unit = true := by
    intro unit member
    rcases List.mem_map.mp member with ⟨character, isMember, rfl⟩
    exact isDigits.digit character isMember
  have read : readDigits (digits.map some ++ rest) = (digits, rest) := by
    rw [readDigits, takeWhile_append_of_boundary inside boundary,
      dropWhile_append_of_boundary inside boundary,
      charactersOf_map_some]
  rw [readSomeDigits?, read]
  rcases List.exists_cons_of_ne_nil isDigits.nonempty with
    ⟨first, others, rfl⟩
  rfl

theorem readIntegerPart?_append
    (isWhole : IsIntegerPart whole)
    (boundary : ∀ unit ∈ rest.head?, isDigitUnit unit = false) :
    readIntegerPart? (whole.map some ++ rest) = some (whole, rest) := by
  cases isWhole with
  | zero => rfl
  | digits isDigits noZero =>
      rw [readIntegerPart?]
      · exact readSomeDigits?_append isDigits boundary
      · intro behind begins
        rcases List.exists_cons_of_ne_nil isDigits.nonempty with
          ⟨first, others, rfl⟩
        rw [List.map_cons, List.cons_append, List.cons.injEq] at begins
        exact noZero begins.1

theorem readFraction?_append
    (isFraction : IsFraction fraction)
    (boundary : ∀ unit ∈ rest.head?, isDigitUnit unit = false)
    (noPoint : ∀ unit ∈ rest.head?, unit ≠ some '.') :
    readFraction? (fraction.map some ++ rest) = some (fraction, rest) := by
  cases isFraction with
  | missing =>
      rw [List.map_nil, List.nil_append, readFraction?]
      rintro behind rfl
      exact noPoint (some '.') rfl rfl
  | point isDigits =>
      rw [List.map_cons, List.cons_append, readFraction?,
        readSomeDigits?_append isDigits boundary]
      rfl

/-- The sign of an exponent is read as it is spelled. -/
theorem readSign_append
    {sign : List Char}
    (isSign : sign = [] ∨ sign = ['+'] ∨ sign = ['-'])
    (isDigits : IsDigits digits)
    (rest : List TextUnit) :
    readSign (sign.map some ++ (digits.map some ++ rest)) =
      (sign, digits.map some ++ rest) := by
  rcases isSign with rfl | rfl | rfl
  · rcases List.exists_cons_of_ne_nil isDigits.nonempty with
      ⟨first, others, rfl⟩
    have isDigit := isDigits.digit first List.mem_cons_self
    rw [List.map_nil, List.nil_append, readSign]
    · rintro behind begins
      cases begins
      exact absurd isDigit (by decide)
    · rintro behind begins
      cases begins
      exact absurd isDigit (by decide)
  · rfl
  · rfl

theorem readExponent?_append
    (isExponent : IsExponent exponent)
    (stops : StopsNumber rest) :
    readExponent? (exponent.map some ++ rest) =
      some (exponent, rest) := by
  cases isExponent with
  | missing =>
      rw [List.map_nil, List.nil_append]
      cases rest with
      | nil => rfl
      | cons unit rest =>
          cases unit with
          | none => rfl
          | some character =>
              rcases stops (some character) rfl with ⟨-, -, small, large⟩
              have noLetter :
                  ¬ (character == 'e' || character == 'E') = true := by
                simpa using And.intro small large
              rw [readExponent?, if_neg noLetter]
  | @power letter sign digits isLetter isSign isDigits =>
      have isLetterToo : (letter == 'e' || letter == 'E') = true := by
        simpa using isLetter
      have boundary : ∀ unit ∈ rest.head?, isDigitUnit unit = false :=
        fun unit isFirst => (stops unit isFirst).1
      rw [List.map_cons, List.map_append, List.cons_append,
        List.append_assoc, readExponent?, if_pos isLetterToo,
        readSign_append isSign isDigits]
      simp only [readSomeDigits?_append isDigits boundary]
      rfl

/-- An exponent begins with no digit and no point. -/
theorem IsExponent.begins
    (isExponent : IsExponent exponent)
    (stops : StopsNumber rest) :
    ∀ unit ∈ (exponent.map some ++ rest).head?,
      isDigitUnit unit = false ∧ unit ≠ some '.' := by
  cases isExponent with
  | missing =>
      intro unit isFirst
      rcases stops unit isFirst with ⟨noDigit, noPoint, -⟩
      exact ⟨noDigit, noPoint⟩
  | power isLetter _ _ =>
      rw [List.map_cons, List.cons_append]
      apply forall_mem_head?_cons
      rcases isLetter with rfl | rfl
      · decide
      · decide

/-- A fraction begins with no digit. -/
theorem IsFraction.begins
    (isFraction : IsFraction fraction)
    (boundary : ∀ unit ∈ rest.head?, isDigitUnit unit = false) :
    ∀ unit ∈ (fraction.map some ++ rest).head?,
      isDigitUnit unit = false := by
  cases isFraction with
  | missing => exact boundary
  | point _ =>
      rw [List.map_cons, List.cons_append]
      exact forall_mem_head?_cons (by decide) _

theorem readMagnitude?_append
    (isWhole : IsIntegerPart whole)
    (isFraction : IsFraction fraction)
    (isExponent : IsExponent exponent)
    (stops : StopsNumber rest) :
    readMagnitude?
        ((whole ++ (fraction ++ exponent)).map some ++ rest) =
      some (whole ++ (fraction ++ exponent), rest) := by
  have behindFraction := isExponent.begins stops
  have noDigit :
      ∀ unit ∈ (exponent.map some ++ rest).head?,
        isDigitUnit unit = false :=
    fun unit isFirst => (behindFraction unit isFirst).1
  have noPoint :
      ∀ unit ∈ (exponent.map some ++ rest).head?, unit ≠ some '.' :=
    fun unit isFirst => (behindFraction unit isFirst).2
  have behindWhole := isFraction.begins noDigit
  simp only [List.map_append, List.append_assoc, readMagnitude?,
    Option.bind_eq_bind, Option.bind_some,
    readIntegerPart?_append isWhole behindWhole,
    readFraction?_append isFraction noDigit noPoint,
    readExponent?_append isExponent stops]
  rfl

theorem IsIntegerPart.exists_cons
    (isWhole : IsIntegerPart whole) :
    ∃ first others, whole = first :: others ∧ first.isDigit = true := by
  cases isWhole with
  | zero => exact ⟨'0', [], rfl, by decide⟩
  | digits isDigits _ =>
      rcases List.exists_cons_of_ne_nil isDigits.nonempty with
        ⟨first, others, rfl⟩
      exact
        ⟨first, others, rfl, isDigits.digit first List.mem_cons_self⟩

/-- A number is read whole where nothing that follows could continue it. -/
theorem IsNumber.readNumber?_append
    (isNumber : IsNumber spelling)
    (stops : StopsNumber rest) :
    readNumber? (spelling.map some ++ rest) =
      some (spelling, rest) := by
  cases isNumber with
  | parts isSign isWhole isFraction isExponent =>
      have magnitude :=
        readMagnitude?_append isWhole isFraction isExponent stops
      rcases isSign with rfl | rfl
      · rcases isWhole.exists_cons with ⟨first, others, rfl, isDigit⟩
        rw [List.nil_append, readNumber?]
        · exact magnitude
        · rintro behind begins
          rw [List.cons_append, List.map_cons, List.cons_append,
            List.cons.injEq] at begins
          rw [Option.some.inj begins.1] at isDigit
          exact absurd isDigit (by decide)
      · rw [List.singleton_append, List.map_cons, List.cons_append,
          readNumber?, magnitude]
        rfl

/-! ## Natural numbers -/

theorem head?_toDigits_ne
    {number : Nat}
    (positive : 0 < number) :
    (Nat.toDigits 10 number).head? ≠ some '0' := by
  induction number using Nat.strongRecOn with
  | ind number ih =>
      rcases Nat.lt_or_ge number 10 with small | large
      · have noZero : ∀ digit < 10, 0 < digit → digit.digitChar ≠ '0' := by
          decide
        rw [Nat.toDigits_of_lt_base small, List.head?_cons]
        exact fun isZero =>
          noZero number small positive (Option.some.inj isZero)
      · have fewer : 0 < number / 10 := by
          omega
        have front := ih (number / 10) (by omega) fewer
        rcases List.exists_cons_of_ne_nil
            (Nat.toDigits_ne_nil : Nat.toDigits 10 (number / 10) ≠ []) with
          ⟨first, others, digits⟩
        rw [Nat.toDigits_of_base_le (by decide) large, digits]
        rwa [digits] at front

/-- The decimal digits of a number have no zero in front of others. -/
theorem isIntegerPart_toDigits
    (number : Nat) :
    IsIntegerPart (Nat.toDigits 10 number) := by
  have isDigits : IsDigits (Nat.toDigits 10 number) :=
    ⟨Nat.toDigits_ne_nil,
      fun _ => Nat.isDigit_of_mem_toDigits (by decide) (Nat.le_refl 10)⟩
  rcases Nat.eq_zero_or_pos number with rfl | positive
  · rw [Nat.toDigits_zero]
    exact .zero
  · exact .digits isDigits (head?_toDigits_ne positive)

/-- A natural number is written as a number. -/
theorem isNumber_repr
    (number : Nat) :
    IsNumber number.repr.toList := by
  have isNumber :=
    IsNumber.parts (.inl rfl) (isIntegerPart_toDigits number) .missing
      .missing
  rwa [List.append_nil, List.append_nil, List.nil_append,
    ← Nat.toList_repr] at isNumber

/-- A natural number of 64 bits is found in its value again. -/
theorem unsigned?_ofNat
    {number : Nat}
    (small : number < 2 ^ 64) :
    (Value.ofNat number).unsigned? = some number := by
  have isDigit : (Nat.toDigits 10 number).all Char.isDigit = true :=
    List.all_eq_true.mpr fun _ =>
      Nat.isDigit_of_mem_toDigits (by decide) (Nat.le_refl 10)
  have counted : Nat.ofDigitChars 10 (Nat.toDigits 10 number) 0 = number :=
    Nat.ofDigitChars_ten_toDigits
  have fits : number < Nat.pow 2 64 :=
    small
  simp only [Value.ofNat, Value.unsigned?, Nat.toList_repr, counted]
  rw [if_pos ⟨isDigit, Nat.toDigits_ne_nil, fits⟩]

end TestScribe.Json

import TestScribe.Text.Utf8

/-!
# Text as bytes and back

The bytes of a text are decoded as its characters, one after the other: the lead
byte of each announces as many bytes as follow, and these pass for the rest of its
sequence.  So a lenient reader shows a text as it is, and a strict one reads the
bytes of texts and no others.  A byte below 0x80 is never a part of a longer
sequence, whether characters are written or bytes are read.
-/

namespace TestScribe.Text

/-! ## Bytes by their numbers -/

section Bytes

variable
    {lead second byte : UInt8}

theorem isContinuation_iff :
    isContinuation byte = true ↔
      0x80 ≤ byte.toNat ∧ byte.toNat ≤ 0xBF := by
  simp [isContinuation, UInt8.le_iff_toNat_le]

theorem isSecondByte_iff :
    isSecondByte lead second = true ↔
      (0x80 ≤ second.toNat ∧ second.toNat ≤ 0xBF) ∧
        (lead.toNat = 0xE0 → 0xA0 ≤ second.toNat) ∧
          (lead.toNat = 0xED → second.toNat ≤ 0x9F) ∧
            (lead.toNat = 0xF0 → 0x90 ≤ second.toNat) ∧
              (lead.toNat = 0xF4 → second.toNat ≤ 0x8F) := by
  simp only [isSecondByte, isContinuation, beq_iff_eq,
    ← UInt8.toNat_inj, UInt8.le_iff_toNat_le, UInt8.reduceToNat]
  repeat' split
  all_goals
    simp only [Bool.and_eq_true, decide_eq_true_eq]
    omega

/-- A byte that goes on with a character holds six of its bits. -/
theorem toNat_continuation
    (code : Nat) :
    (UInt8.ofNat (code % 0x40 + 0x80)).toNat = code % 0x40 + 0x80 := by
  rw [UInt8.toNat_ofNat']
  omega

theorem announcedLength_eq :
    announcedLength lead =
      if lead.toNat < 0x80 then 1
      else if 0xC2 ≤ lead.toNat ∧ lead.toNat ≤ 0xDF then 2
      else if 0xE0 ≤ lead.toNat ∧ lead.toNat ≤ 0xEF then 3
      else if 0xF0 ≤ lead.toNat ∧ lead.toNat ≤ 0xF4 then 4
      else 0 := by
  simp only [announcedLength, UInt8.lt_iff_toNat_lt,
    UInt8.le_iff_toNat_le, UInt8.reduceToNat, Bool.and_eq_true,
    decide_eq_true_eq]

end Bytes

/-! ## One character -/

section Character

variable
    {lead b c d : UInt8}

theorem firstUnit_one
    (announced : announcedLength lead = 1)
    (rest : List UInt8) :
    firstUnit lead rest = (some (Char.ofNat lead.toNat), 0) := by
  simp only [firstUnit, announced]

theorem firstUnit_two
    (announced : announcedLength lead = 2)
    (second : isSecondByte lead b = true)
    (rest : List UInt8) :
    firstUnit lead (b :: rest) =
      (some (Char.ofNat (lead.toNat % 0x20 * 0x40 + payload b)), 1) := by
  simp only [firstUnit, announced, second, if_true]

theorem firstUnit_three
    (announced : announcedLength lead = 3)
    (second : isSecondByte lead b = true)
    (third : isContinuation c = true)
    (rest : List UInt8) :
    firstUnit lead (b :: c :: rest) =
      (some (Char.ofNat
        ((lead.toNat % 0x10 * 0x40 + payload b) * 0x40 + payload c)),
        2) := by
  simp only [firstUnit, announced, second, third, if_true]

theorem firstUnit_four
    (announced : announcedLength lead = 4)
    (second : isSecondByte lead b = true)
    (third : isContinuation c = true)
    (fourth : isContinuation d = true)
    (rest : List UInt8) :
    firstUnit lead (b :: c :: d :: rest) =
      (some (Char.ofNat
        (((lead.toNat % 0x08 * 0x40 + payload b) * 0x40 + payload c) * 0x40
          + payload d)), 3) := by
  simp only [firstUnit, announced, second, third, fourth, if_true]

/-- The bytes are those of the character, and are read as it, whatever follows. -/
def ReadsCharacter
    (bytes : List UInt8)
    (character : Char) : Prop :=
  ∃ lead others,
    bytes = lead :: others ∧
      ∀ rest,
        firstUnit lead (others ++ rest) = (some character, others.length)

variable
    {character : Char}

theorem readsCharacter_one
    (small : character.toNat ≤ 0x7F) :
    ReadsCharacter [.ofNat character.toNat] character := by
  have leadNumber :
      (UInt8.ofNat character.toNat).toNat = character.toNat := by
    rw [UInt8.toNat_ofNat']
    omega
  have announced : announcedLength (.ofNat character.toNat) = 1 := by
    rw [announcedLength_eq, leadNumber, if_pos (by omega)]
  refine ⟨_, [], rfl, ?_⟩
  intro rest
  rw [firstUnit_one announced, leadNumber, Char.ofNat_toNat]
  rfl

theorem readsCharacter_two
    (large : 0x7F < character.toNat)
    (small : character.toNat ≤ 0x7FF) :
    ReadsCharacter
      [.ofNat (character.toNat / 0x40 % 0x20 + 0xC0),
        .ofNat (character.toNat % 0x40 + 0x80)]
      character := by
  generalize isLead :
    UInt8.ofNat (character.toNat / 0x40 % 0x20 + 0xC0) = lead
  generalize isSecond : UInt8.ofNat (character.toNat % 0x40 + 0x80) = b
  have leadNumber : lead.toNat = character.toNat / 0x40 % 0x20 + 0xC0 := by
    rw [← isLead, UInt8.toNat_ofNat']
    omega
  have secondNumber : b.toNat = character.toNat % 0x40 + 0x80 :=
    isSecond ▸ toNat_continuation _
  have announced : announcedLength lead = 2 := by
    rw [announcedLength_eq, if_neg (by omega), if_pos (by omega)]
  have second : isSecondByte lead b = true :=
    isSecondByte_iff.mpr (by omega)
  have code :
      lead.toNat % 0x20 * 0x40 + payload b = character.toNat := by
    rw [payload]
    omega
  refine ⟨lead, [b], rfl, ?_⟩
  intro rest
  rw [List.singleton_append, firstUnit_two announced second, code,
    Char.ofNat_toNat]
  rfl

theorem readsCharacter_three
    (large : 0x7FF < character.toNat)
    (small : character.toNat ≤ 0xFFFF) :
    ReadsCharacter
      [.ofNat (character.toNat / 0x1000 % 0x10 + 0xE0),
        .ofNat (character.toNat / 0x40 % 0x40 + 0x80),
        .ofNat (character.toNat % 0x40 + 0x80)]
      character := by
  have noSurrogate :
      character.toNat < 0xD800 ∨
        0xDFFF < character.toNat ∧ character.toNat < 0x110000 :=
    character.valid
  generalize isLead :
    UInt8.ofNat (character.toNat / 0x1000 % 0x10 + 0xE0) = lead
  generalize isSecond :
    UInt8.ofNat (character.toNat / 0x40 % 0x40 + 0x80) = b
  generalize isThird : UInt8.ofNat (character.toNat % 0x40 + 0x80) = c
  have leadNumber : lead.toNat = character.toNat / 0x1000 % 0x10 + 0xE0 := by
    rw [← isLead, UInt8.toNat_ofNat']
    omega
  have secondNumber : b.toNat = character.toNat / 0x40 % 0x40 + 0x80 :=
    isSecond ▸ toNat_continuation _
  have thirdNumber : c.toNat = character.toNat % 0x40 + 0x80 :=
    isThird ▸ toNat_continuation _
  have announced : announcedLength lead = 3 := by
    rw [announcedLength_eq, if_neg (by omega), if_neg (by omega),
      if_pos (by omega)]
  have second : isSecondByte lead b = true :=
    isSecondByte_iff.mpr (by omega)
  have third : isContinuation c = true :=
    isContinuation_iff.mpr (by omega)
  have code :
      (lead.toNat % 0x10 * 0x40 + payload b) * 0x40 + payload c =
        character.toNat := by
    rw [payload, payload]
    omega
  refine ⟨lead, [b, c], rfl, ?_⟩
  intro rest
  rw [List.cons_append, List.singleton_append,
    firstUnit_three announced second third, code, Char.ofNat_toNat]
  rfl

theorem readsCharacter_four
    (large : 0xFFFF < character.toNat) :
    ReadsCharacter
      [.ofNat (character.toNat / 0x40000 % 0x08 + 0xF0),
        .ofNat (character.toNat / 0x1000 % 0x40 + 0x80),
        .ofNat (character.toNat / 0x40 % 0x40 + 0x80),
        .ofNat (character.toNat % 0x40 + 0x80)]
      character := by
  have inRange :
      character.toNat < 0xD800 ∨
        0xDFFF < character.toNat ∧ character.toNat < 0x110000 :=
    character.valid
  generalize isLead :
    UInt8.ofNat (character.toNat / 0x40000 % 0x08 + 0xF0) = lead
  generalize isSecond :
    UInt8.ofNat (character.toNat / 0x1000 % 0x40 + 0x80) = b
  generalize isThird :
    UInt8.ofNat (character.toNat / 0x40 % 0x40 + 0x80) = c
  generalize isFourth : UInt8.ofNat (character.toNat % 0x40 + 0x80) = d
  have leadNumber : lead.toNat = character.toNat / 0x40000 % 0x08 + 0xF0 := by
    rw [← isLead, UInt8.toNat_ofNat']
    omega
  have secondNumber : b.toNat = character.toNat / 0x1000 % 0x40 + 0x80 :=
    isSecond ▸ toNat_continuation _
  have thirdNumber : c.toNat = character.toNat / 0x40 % 0x40 + 0x80 :=
    isThird ▸ toNat_continuation _
  have fourthNumber : d.toNat = character.toNat % 0x40 + 0x80 :=
    isFourth ▸ toNat_continuation _
  have announced : announcedLength lead = 4 := by
    rw [announcedLength_eq, if_neg (by omega), if_neg (by omega),
      if_neg (by omega), if_pos (by omega)]
  have second : isSecondByte lead b = true :=
    isSecondByte_iff.mpr (by omega)
  have third : isContinuation c = true :=
    isContinuation_iff.mpr (by omega)
  have fourth : isContinuation d = true :=
    isContinuation_iff.mpr (by omega)
  have code :
      ((lead.toNat % 0x08 * 0x40 + payload b) * 0x40 + payload c) * 0x40 +
          payload d =
        character.toNat := by
    rw [payload, payload, payload]
    omega
  refine ⟨lead, [b, c, d], rfl, ?_⟩
  intro rest
  rw [List.cons_append, List.cons_append, List.singleton_append,
    firstUnit_four announced second third fourth, code,
    Char.ofNat_toNat]
  rfl

/-- The bytes of a character are read as that character. -/
theorem readsCharacter_utf8EncodeChar
    (character : Char) :
    ReadsCharacter (String.utf8EncodeChar character) character := by
  rw [String.utf8EncodeChar]
  split
  · next small => exact readsCharacter_one small
  · next large =>
    split
    · next small =>
      exact readsCharacter_two (Nat.lt_of_not_le large) small
    · next large =>
      split
      · next small =>
        exact readsCharacter_three (Nat.lt_of_not_le large) small
      · next large => exact readsCharacter_four (Nat.lt_of_not_le large)

end Character

/-! ## Whole texts -/

/-- Bytes that belong to the unit before are passed over. -/
theorem decodeUnitsFrom_length_append
    (skipped bytes : List UInt8) :
    decodeUnitsFrom skipped.length (skipped ++ bytes) =
      decodeUnitsFrom 0 bytes := by
  induction skipped with
  | nil => rfl
  | cons byte skipped ih =>
      rw [List.length_cons, List.cons_append, decodeUnitsFrom, ih]

theorem ReadsCharacter.decodeUnitsFrom_append
    {bytes : List UInt8}
    {character : Char}
    (reads : ReadsCharacter bytes character)
    (rest : List UInt8) :
    decodeUnitsFrom 0 (bytes ++ rest) =
      some character :: decodeUnitsFrom 0 rest := by
  rcases reads with ⟨lead, others, rfl, read⟩
  rw [List.cons_append, decodeUnitsFrom, read]
  simp only [decodeUnitsFrom_length_append]

theorem decodeUnitsFrom_flatMap
    (text : List Char) :
    decodeUnitsFrom 0 (text.flatMap String.utf8EncodeChar) =
      text.map some := by
  induction text with
  | nil => rfl
  | cons character text ih =>
      rw [List.flatMap_cons,
        (readsCharacter_utf8EncodeChar character).decodeUnitsFrom_append,
        ih, List.map_cons]

theorem data_toUTF8
    (text : String) :
    text.toUTF8.data.toList =
      text.toList.flatMap String.utf8EncodeChar := by
  have encoded : text.toUTF8 = text.toList.utf8Encode := by
    rw [String.toUTF8_eq_toByteArray, ← String.toByteArray_ofList,
      String.ofList_toList]
  rw [encoded, List.utf8Encode, List.data_toByteArray]

/-- The bytes of a text are decoded as its characters. -/
theorem decodeUnits_toUTF8
    (text : String) :
    decodeUnits text.toUTF8 = text.toList.map some := by
  rw [decodeUnits, data_toUTF8, decodeUnitsFrom_flatMap]

/-- A lenient reader shows a text as it is. -/
theorem decodeLenient_toUTF8
    (text : String) :
    decodeLenient text.toUTF8 = text := by
  rw [decodeLenient, decodeUnits_toUTF8, List.map_map]
  exact
    (congrArg String.ofList (List.map_id text.toList)).trans
      String.ofList_toList

/-! ## Characters of ASCII -/

/-- A byte below 0x80 stands for a character of its own only. -/
theorem toNat_eq_of_mem_utf8EncodeChar
    {byte : UInt8}
    {character : Char}
    (member : byte ∈ String.utf8EncodeChar character)
    (small : byte.toNat < 0x80) :
    byte.toNat = character.toNat := by
  rw [String.utf8EncodeChar] at member
  split at member
  · next ascii =>
    change character.toNat ≤ 0x7F at ascii
    rw [List.mem_singleton.mp member, UInt8.toNat_ofNat']
    change character.toNat % 0x100 = character.toNat
    omega
  · -- All bytes of a longer sequence are larger.
    exfalso
    repeat' split at member
    all_goals
      simp only [List.mem_cons, List.not_mem_nil, or_false] at member
    · rcases member with rfl | rfl
      all_goals
        rw [UInt8.toNat_ofNat'] at small
        omega
    · rcases member with rfl | rfl | rfl
      all_goals
        rw [UInt8.toNat_ofNat'] at small
        omega
    · rcases member with rfl | rfl | rfl | rfl
      all_goals
        rw [UInt8.toNat_ofNat'] at small
        omega

theorem toNat_eq_of_ofNat_eq
    {code : Nat}
    {character : Char}
    (same : Char.ofNat code = character)
    (nonzero : 0 < character.toNat) :
    character.toNat = code := by
  subst same
  by_cases valid : code.isValidChar
  · rw [Char.ofNat, dif_pos valid]
    rfl
  · rw [Char.ofNat, dif_neg valid] at nonzero
    cases nonzero

/-- No sequence of several bytes is read as a character of ASCII. -/
theorem toNat_eq_of_firstUnit
    {lead : UInt8}
    {rest : List UInt8}
    {character : Char}
    {further : Nat}
    (read : firstUnit lead rest = (some character, further))
    (nonzero : 0 < character.toNat)
    (small : character.toNat < 0x80) :
    lead.toNat = character.toNat := by
  have isCode {code : Nat} {length : Nat}
      (read :
        ((some (Char.ofNat code), length) : TextUnit × Nat) =
          (some character, further)) :
      character.toNat = code :=
    toNat_eq_of_ofNat_eq (Option.some.inj (congrArg Prod.fst read))
      nonzero
  rw [firstUnit.eq_def, announcedLength_eq] at read
  -- Longer sequences spell no small number: what may follow the lead byte rules out
  -- the forms that are too long.
  split at read
  · exact (isCode read).symm
  · next second _ announced =>
    split at read
    · next follows =>
      have code := isCode read
      have range := isSecondByte_iff.mp follows
      rw [payload] at code
      repeat' split at announced
      all_goals omega
    · cases read
  · next second _ announced =>
    split at read
    · next follows =>
      have range := isSecondByte_iff.mp follows
      split at read
      · split at read
        · have code := isCode read
          rw [payload, payload] at code
          repeat' split at announced
          all_goals omega
        · cases read
      · cases read
    · cases read
  · next second _ announced =>
    split at read
    · next follows =>
      have range := isSecondByte_iff.mp follows
      split at read
      · split at read
        · split at read
          · split at read
            · have code := isCode read
              rw [payload, payload, payload] at code
              repeat' split at announced
              all_goals omega
            · cases read
          · cases read
        · cases read
      · cases read
    · cases read
  · cases read

theorem exists_byte_of_mem_decodeUnitsFrom
    {skipped : Nat}
    {bytes : List UInt8}
    {character : Char}
    (member : some character ∈ decodeUnitsFrom skipped bytes)
    (nonzero : 0 < character.toNat)
    (small : character.toNat < 0x80) :
    ∃ byte ∈ bytes, byte.toNat = character.toNat := by
  fun_induction decodeUnitsFrom skipped bytes with
  | case1 => cases member
  | case2 skipped passed rest ih =>
      rcases ih member with ⟨byte, inRest, same⟩
      exact ⟨byte, List.mem_cons_of_mem _ inRest, same⟩
  | case3 lead rest unit further read ih =>
      rcases List.mem_cons.mp member with isUnit | later
      · rw [← isUnit] at read
        exact
          ⟨lead, List.mem_cons_self,
            toNat_eq_of_firstUnit read nonzero small⟩
      · rcases ih later with ⟨byte, inRest, same⟩
        exact ⟨byte, List.mem_cons_of_mem _ inRest, same⟩

/-- A lenient reader shows a character of ASCII only where its byte stands. -/
theorem exists_byte_of_mem_decodeLenient
    {bytes : ByteArray}
    {character : Char}
    (member : character ∈ (decodeLenient bytes).toList)
    (nonzero : 0 < character.toNat)
    (small : character.toNat < 0x80) :
    ∃ byte ∈ bytes.data.toList, byte.toNat = character.toNat := by
  rw [decodeLenient, String.toList_ofList, List.mem_map] at member
  rcases member with ⟨unit, inUnits, shows⟩
  cases unit with
  | none =>
      rw [Option.getD_none] at shows
      subst shows
      exact absurd small (by decide)
  | some _ =>
      cases shows
      exact exists_byte_of_mem_decodeUnitsFrom inUnits nonzero small

/-! ## Strict readers -/

/-- Only the UTF-8 bytes of a text are read as that text. -/
theorem decodeStrict?_eq_some_iff
    {bytes : ByteArray}
    {text : String} :
    decodeStrict? bytes = some text ↔ bytes = text.toUTF8 := by
  rw [decodeStrict?, String.fromUTF8?]
  constructor
  · intro decoded
    split at decoded
    · cases decoded
      rfl
    · cases decoded
  · intro encoded
    subst encoded
    exact dif_pos text.isValidUTF8

end TestScribe.Text

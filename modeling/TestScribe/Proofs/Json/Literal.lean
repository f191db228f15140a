import TestScribe.Json.Printer
import TestScribe.Json.Reader
import TestScribe.Proofs.Json.Fields

/-!
# String literals

A string literal is spelled piece by piece: a unit that stands for itself, a
short escape, or the number of a UTF-16 code unit.  The reader finds the pieces
as they are spelled, and the pieces of a printed text spell that text.
-/

namespace TestScribe.Json

open TestScribe.Text

/-! ## Spelling -/

/-- How one piece of a string literal is spelled. -/
inductive SpellsPiece :
    List TextUnit → Piece → Prop where
  | plain
      {unit : TextUnit}
      (notQuote : unit ≠ some '"')
      (notBackslash : unit ≠ some '\\')
      (notControl : unit.any (·.toNat < 0x20) = false) :
      SpellsPiece [unit] (.plain unit)
  | short
      {letter character : Char}
      (isEscape : shortEscape? letter = some character) :
      SpellsPiece [some '\\', some letter] (.plain (some character))
  | codeUnit
      {digits : List TextUnit}
      {number : Nat}
      (four : digits.length = 4)
      (isNumber : codeUnitNumber? digits = some number) :
      SpellsPiece (some '\\' :: some 'u' :: digits) (.codeUnit number)

/-- How the pieces of a string literal are spelled, one after the other. -/
inductive SpellsPieces :
    List TextUnit → List Piece → Prop where
  | nil : SpellsPieces [] []
  | cons
      {front rest : List TextUnit}
      {piece : Piece}
      {pieces : List Piece}
      (first : SpellsPiece front piece)
      (others : SpellsPieces rest pieces) :
      SpellsPieces (front ++ rest) (piece :: pieces)

/-- How a string literal is spelled, with its quotes. -/
inductive SpellsLiteral :
    List TextUnit → Literal → Prop where
  | quoted
      {body : List TextUnit}
      {pieces : List Piece}
      (spelled : SpellsPieces body pieces) :
      SpellsLiteral (some '"' :: (body ++ [some '"']))
        ((spelledText? pieces).map String.ofList)

/-! ## Reading -/

/-- A piece is read as it is spelled, and the others after it. -/
theorem SpellsPiece.readPieces?_append
    {front : List TextUnit}
    {piece : Piece}
    (spelled : SpellsPiece front piece)
    (rest : List TextUnit) :
    readPieces? (front ++ rest) =
      (readPieces? rest).map fun (pieces, behind) =>
        (piece :: pieces, behind) := by
  cases spelled with
  | plain notQuote notBackslash notControl =>
      rw [List.singleton_append, readPieces?, notControl]
      · cases readPieces? rest <;> rfl
      · exact notQuote
      · exact fun _ _ _ _ _ isBackslash _ => notBackslash isBackslash
      · exact fun _ _ isBackslash _ => notBackslash isBackslash
      · exact notBackslash
  | @short letter character isEscape =>
      have notCodeUnit : letter ≠ 'u' := by
        rintro rfl
        cases isEscape
      rw [List.cons_append, List.singleton_append, readPieces?, isEscape]
      · cases readPieces? rest <;> rfl
      · exact fun _ _ _ _ _ _ isCodeUnit => notCodeUnit isCodeUnit
  | @codeUnit digits number four isNumber =>
      match digits, four with
      | [a, b, c, d], _ =>
          simp only [List.cons_append, List.nil_append]
          rw [readPieces?, isNumber]
          cases readPieces? rest <;> rfl

theorem SpellsPieces.readPieces?_append
    {body : List TextUnit}
    {pieces : List Piece}
    (spelled : SpellsPieces body pieces)
    (rest : List TextUnit) :
    readPieces? (body ++ some '"' :: rest) = some (pieces, rest) := by
  induction spelled with
  | nil => rw [List.nil_append, readPieces?]
  | cons first others ih =>
      rw [List.append_assoc, first.readPieces?_append, ih, Option.map_some]

/-- A string literal is read from behind its opening quote on. -/
theorem SpellsLiteral.readLiteral?_append
    {units : List TextUnit}
    {literal : Literal}
    (spelled : SpellsLiteral units literal) :
    ∃ inner,
      units = some '"' :: inner ∧
        ∀ rest, readLiteral? (inner ++ rest) = some (literal, rest) := by
  cases spelled with
  | @quoted body pieces spelled =>
      refine ⟨body ++ [some '"'], rfl, ?_⟩
      intro rest
      rw [readLiteral?, List.append_assoc, List.singleton_append,
        spelled.readPieces?_append]
      rfl

/-! ## Printing -/

theorem characterOfCode?_toNat
    (character : Char) :
    characterOfCode? character.toNat = some character := by
  have valid : character.toNat.isValidChar := character.valid
  rw [characterOfCode?, dif_pos valid]
  rfl

/-- The number of a control character is written with four digits. -/
theorem hexValue?_paddedHexDigits :
    ∀ code < 0x20,
      (paddedHexDigits 4 code).length = 4 ∧
        hexValue? (paddedHexDigits 4 code) = some code := by
  decide

/-- A code unit that is no half of a pair spells its own character. -/
theorem spelledText?_codeUnit_cons
    {number : Nat}
    (notHigh : isHighSurrogate number = false)
    (pieces : List Piece) :
    spelledText? (.codeUnit number :: pieces) = do
      let character ← characterOfCode? number
      return character :: (← spelledText? pieces) := by
  cases pieces with
  | nil => rfl
  | cons piece pieces =>
      cases piece with
      | plain unit => rfl
      | codeUnit low =>
          rw [spelledText?, notHigh]
          rfl

/-- A printed character is one piece, which spells the character. -/
theorem exists_piece_escapedCharacter
    (character : Char) :
    ∃ piece,
      SpellsPiece ((escapedCharacter character).map some) piece ∧
        ∀ pieces,
          spelledText? (piece :: pieces) =
            (spelledText? pieces).map (character :: ·) := by
  have plainSpells :
      ∀ pieces,
        spelledText? (.plain (some character) :: pieces) =
          (spelledText? pieces).map (character :: ·) := by
    intro pieces
    rw [spelledText?]
    cases spelledText? pieces <;> rfl
  unfold escapedCharacter
  split
  case h_8 notQuote notBackslash _ _ _ _ _ =>
    split
    · next isControl =>
      rcases hexValue?_paddedHexDigits character.toNat isControl with
        ⟨four, value⟩
      have notHigh : isHighSurrogate character.toNat = false := by
        rw [isHighSurrogate, Bool.and_eq_false_iff]
        left
        rw [decide_eq_false_iff_not]
        omega
      have spelled :
          SpellsPiece
            (some '\\' :: some 'u' ::
              (paddedHexDigits 4 character.toNat).map some)
            (.codeUnit character.toNat) := by
        apply SpellsPiece.codeUnit
        · rw [List.length_map, four]
        · have inverse : ∀ digit : Char, id (some digit) = some digit :=
            fun _ => rfl
          rw [codeUnitNumber?, mapM_map_of_inverse inverse,
            Option.bind_some, value]
      refine ⟨_, spelled, ?_⟩
      intro pieces
      rw [spelledText?_codeUnit_cons notHigh, characterOfCode?_toNat]
      cases spelledText? pieces <;> rfl
    · next notControl =>
      refine ⟨_, .plain ?_ ?_ ?_, plainSpells⟩
      · simpa using notQuote
      · simpa using notBackslash
      · simpa using notControl
  all_goals exact ⟨_, .short rfl, plainSpells⟩

/-- A printed text is spelled by pieces that spell the text. -/
theorem exists_pieces_escaped
    (text : List Char) :
    ∃ pieces,
      SpellsPieces ((text.flatMap escapedCharacter).map some) pieces ∧
        spelledText? pieces = some text := by
  induction text with
  | nil => exact ⟨[], .nil, rfl⟩
  | cons character text ih =>
      rcases ih with ⟨pieces, others, spelled⟩
      rcases exists_piece_escapedCharacter character with
        ⟨piece, first, spells⟩
      refine ⟨piece :: pieces, ?_, ?_⟩
      · rw [List.flatMap_cons, List.map_append]
        exact .cons first others
      · rw [spells, spelled, Option.map_some]

/-- A printed string literal spells its text. -/
theorem spellsLiteral_stringLiteral
    (text : String) :
    SpellsLiteral ((stringLiteral text.toList).map some) (some text) := by
  rcases exists_pieces_escaped text.toList with
    ⟨pieces, spelled, isText⟩
  have quoted := SpellsLiteral.quoted spelled
  rw [isText, Option.map_some, String.ofList_toList] at quoted
  simpa [stringLiteral] using quoted

end TestScribe.Json

import Mathlib.Data.List.Basic
import Mathlib.Data.List.TakeWhile
import TestScribe.Proofs.Source.Lines
import TestScribe.Proofs.Text.Whitespace
import TestScribe.Source.Signature

/-!
# Entries of a parameter list

Entries are read on either side of a comma on their own.  White space around an
entry is not part of it, so joining entries with a comma and a space and
reading them again gives the entries back.  In general the entries of a text are
those that its pieces between the commas spell: each piece is blank, or it is an
entry with white space around it.
-/

namespace TestScribe.Source

open TestScribe.Text

/-- An entry of a parameter list: not empty, without commas and without white
space at either end. -/
structure IsEntry
    (text : List Char) : Prop where
  nonempty : text ≠ []
  begins : BeginsVisible text
  ends : EndsVisible text
  noComma : ',' ∉ text

instance (text : List Char) : Decidable (IsEntry text) :=
  decidable_of_iff
    (text ≠ [] ∧ BeginsVisible text ∧ EndsVisible text ∧ ',' ∉ text)
    ⟨fun ⟨nonempty, begins, ends, noComma⟩ =>
        ⟨nonempty, begins, ends, noComma⟩,
      fun isEntry =>
        ⟨isEntry.nonempty, isEntry.begins, isEntry.ends,
          isEntry.noComma⟩⟩

/-- What is read from a raw parameter list are entries, cut out of it. -/
theorem isEntry_of_mem_parameterEntries
    {raw entry : List Char}
    (member : entry ∈ parameterEntries raw) :
    IsEntry entry ∧ entry ⊆ raw := by
  rw [parameterEntries, List.mem_filter, List.mem_map] at member
  rcases member with ⟨⟨piece, cut, rfl⟩, kept⟩
  have inside : trim piece ⊆ piece := (trim_isInfix piece).subset
  constructor
  · refine
      ⟨?_, beginsVisible_trim piece, endsVisible_trim piece, ?_⟩
    · simpa using kept
    · intro comma
      exact separator_not_mem_of_mem_splitOn cut (inside comma)
  · exact List.Subset.trans inside (subset_of_mem_splitOn cut)

/-- The entries joined with a comma and a space. -/
def joinEntries
    (entries : List (List Char)) :
    List Char :=
  [',', ' '].intercalate entries

/-- The entries on both sides of a comma are read on their own. -/
theorem parameterEntries_append_comma
    (first second : List Char) :
    parameterEntries (first ++ ',' :: second) =
      parameterEntries first ++ parameterEntries second := by
  simp only [parameterEntries, List.splitOn_append_cons_self,
    List.map_append, List.filter_append]

/-- An entry is read without the white space around it. -/
theorem parameterEntries_spaced
    {before entry after : List Char}
    (whiteBefore : ∀ character ∈ before, isWhitespace character = true)
    (whiteAfter : ∀ character ∈ after, isWhitespace character = true)
    (isEntry : IsEntry entry) :
    parameterEntries (before ++ (entry ++ after)) = [entry] := by
  have noComma : ',' ∉ before ++ (entry ++ after) := by
    simp only [List.mem_append, not_or]
    exact
      ⟨not_mem_of_white whiteBefore (by decide), isEntry.noComma,
        not_mem_of_white whiteAfter (by decide)⟩
  have kept : entry.isEmpty = false :=
    List.isEmpty_eq_false_iff.mpr isEntry.nonempty
  rw [parameterEntries, List.splitOn_eq_singleton noComma,
    List.map_singleton,
    trim_append_append whiteBefore whiteAfter isEntry.nonempty
      isEntry.begins isEntry.ends]
  simp [kept]

/-- Joined entries are read again after any white space. -/
theorem parameterEntries_append_joinEntries
    {spaces : List Char}
    {entries : List (List Char)}
    (white : ∀ character ∈ spaces, isWhitespace character = true)
    (areEntries : ∀ entry ∈ entries, IsEntry entry)
    (nonempty : entries ≠ []) :
    parameterEntries (spaces ++ joinEntries entries) = entries := by
  induction entries generalizing spaces with
  | nil => exact absurd rfl nonempty
  | cons entry others ih =>
      have isEntry := areEntries entry List.mem_cons_self
      have alone :
          parameterEntries (spaces ++ entry) = [entry] := by
        have spaced :=
          parameterEntries_spaced white
            (List.forall_mem_nil _) isEntry
        rwa [List.append_nil] at spaced
      cases others with
      | nil =>
          rw [joinEntries, List.intercalate_singleton]
          exact alone
      | cons next others =>
          have later :
              parameterEntries ([' '] ++ joinEntries (next :: others)) =
                next :: others :=
            ih (List.forall_mem_singleton.mpr (by decide))
              (fun other member =>
                areEntries other (List.mem_cons_of_mem _ member))
              (List.cons_ne_nil next others)
          have split :
              spaces ++ joinEntries (entry :: next :: others) =
                (spaces ++ entry) ++
                  ',' :: ([' '] ++ joinEntries (next :: others)) := by
            simp [joinEntries, List.intercalate_cons_cons]
          rw [split, parameterEntries_append_comma, alone, later]
          rfl

theorem parameterEntries_joinEntries
    {entries : List (List Char)}
    (areEntries : ∀ entry ∈ entries, IsEntry entry) :
    parameterEntries (joinEntries entries) = entries := by
  cases entries with
  | nil => decide
  | cons entry others =>
      have read :
          parameterEntries ([] ++ joinEntries (entry :: others)) =
            entry :: others :=
        parameterEntries_append_joinEntries (List.forall_mem_nil _)
          areEntries (List.cons_ne_nil entry others)
      rwa [List.nil_append] at read

/-- Every character of joined entries stands in an entry, or joins two. -/
theorem exists_mem_of_mem_joinEntries
    {entries : List (List Char)}
    {character : Char}
    (member : character ∈ joinEntries entries) :
    (∃ entry ∈ entries, character ∈ entry) ∨
      character = ',' ∨ character = ' ' := by
  induction entries with
  | nil => simp [joinEntries] at member
  | cons entry others ih =>
      cases others with
      | nil =>
          rw [joinEntries, List.intercalate_singleton] at member
          exact .inl ⟨entry, List.mem_cons_self, member⟩
      | cons next others =>
          rw [joinEntries, List.intercalate_cons_cons] at member
          simp only [List.mem_append, List.mem_cons, List.not_mem_nil,
            or_false] at member
          rcases member with (inFirst | joins) | inOthers
          · exact .inl ⟨entry, List.mem_cons_self, inFirst⟩
          · exact .inr joins
          · rcases ih inOthers with ⟨other, isOther, inOther⟩ | joins
            · exact
                .inl ⟨other, List.mem_cons_of_mem _ isOther, inOther⟩
            · exact .inr joins

/-! ## All ways to write a list -/

/--
The pieces between the commas of a parameter list in which these entries stand:
a piece is blank, or it is an entry with white space around it.
-/
inductive SpellsEntries :
    List (List Char) → List (List Char) → Prop where
  | nil : SpellsEntries [] []
  | blank
      {entries pieces : List (List Char)}
      {piece : List Char}
      (white : ∀ character ∈ piece, isWhitespace character = true)
      (further : SpellsEntries entries pieces) :
      SpellsEntries entries (piece :: pieces)
  | entry
      {entries pieces : List (List Char)}
      {before entry after : List Char}
      (whiteBefore :
        ∀ character ∈ before, isWhitespace character = true)
      (whiteAfter : ∀ character ∈ after, isWhitespace character = true)
      (isEntry : IsEntry entry)
      (further : SpellsEntries entries pieces) :
      SpellsEntries (entry :: entries)
        ((before ++ (entry ++ after)) :: pieces)

/-- A blank text has no entries. -/
theorem parameterEntries_of_white
    {text : List Char}
    (white : ∀ character ∈ text, isWhitespace character = true) :
    parameterEntries text = [] := by
  have noComma : ',' ∉ text :=
    not_mem_of_white white (by decide)
  have nothing : trim text = [] := by
    rw [trim, trimStart, List.dropWhile_eq_nil_iff.mpr white]
    rfl
  rw [parameterEntries, List.splitOn_eq_singleton noComma,
    List.map_singleton, nothing]
  rfl

/-- What a first piece spells comes first. -/
theorem parameterEntries_intercalate_cons
    (piece : List Char)
    (pieces : List (List Char)) :
    parameterEntries ([','].intercalate (piece :: pieces)) =
      parameterEntries piece ++
        parameterEntries ([','].intercalate pieces) := by
  cases pieces with
  | nil =>
      have nothing : parameterEntries [] = [] :=
        parameterEntries_of_white (List.forall_mem_nil _)
      rw [List.intercalate_singleton, List.intercalate_nil, nothing,
        List.append_nil]
  | cons next pieces =>
      rw [List.intercalate_cons_cons, List.append_assoc,
        List.singleton_append, parameterEntries_append_comma]

/-- Entries are read from the pieces that spell them. -/
theorem SpellsEntries.parameterEntries_eq
    {entries pieces : List (List Char)}
    (spells : SpellsEntries entries pieces) :
    parameterEntries ([','].intercalate pieces) = entries := by
  induction spells with
  | nil => exact parameterEntries_of_white (List.forall_mem_nil _)
  | blank white _ ih =>
      rw [parameterEntries_intercalate_cons,
        parameterEntries_of_white white, ih, List.nil_append]
  | entry whiteBefore whiteAfter isEntry _ ih =>
      rw [parameterEntries_intercalate_cons,
        parameterEntries_spaced whiteBefore whiteAfter isEntry, ih,
        List.singleton_append]

/-- Any pieces without commas spell what is left of them when they are trimmed. -/
theorem spellsEntries_trim
    {pieces : List (List Char)}
    (noComma : ∀ piece ∈ pieces, ',' ∉ piece) :
    SpellsEntries ((pieces.map trim).filter (!·.isEmpty)) pieces := by
  induction pieces with
  | nil => exact SpellsEntries.nil
  | cons piece pieces ih =>
      have further :=
        ih fun other member =>
          noComma other (List.mem_cons_of_mem piece member)
      rcases exists_white_around_trim piece with
        ⟨before, after, whole, whiteBefore, whiteAfter⟩
      rw [List.map_cons]
      by_cases nothing : trim piece = []
      · rw [List.filter_cons_of_neg (by simp [nothing])]
        refine SpellsEntries.blank ?_ further
        rw [whole, nothing, List.nil_append, List.forall_mem_append]
        exact ⟨whiteBefore, whiteAfter⟩
      · have inside : trim piece ⊆ piece :=
          (trim_isInfix piece).subset
        have isEntry : IsEntry (trim piece) :=
          ⟨nothing, beginsVisible_trim piece, endsVisible_trim piece,
            fun comma =>
              noComma piece List.mem_cons_self (inside comma)⟩
        have spelled :=
          SpellsEntries.entry whiteBefore whiteAfter isEntry further
        rw [← whole] at spelled
        rwa [List.filter_cons_of_pos (by simp [nothing])]

/-- The entries of a text are those that the pieces between its commas spell. -/
theorem parameterEntries_eq_iff
    {raw : List Char}
    {entries : List (List Char)} :
    parameterEntries raw = entries ↔
      ∃ pieces,
        SpellsEntries entries pieces ∧ raw = [','].intercalate pieces := by
  constructor
  · rintro rfl
    exact
      ⟨raw.splitOn ',',
        spellsEntries_trim fun _ => separator_not_mem_of_mem_splitOn,
        (List.intercalate_splitOn ',').symm⟩
  · rintro ⟨pieces, spells, rfl⟩
    exact spells.parameterEntries_eq

@[simp]
theorem map_toList_splitParameters
    (raw : String) :
    (splitParameters raw).map String.toList =
      parameterEntries raw.toList := by
  simp [splitParameters, Function.comp_def]

/-- Two lists of parameters are the same if they have the same characters. -/
theorem splitParameters_eq_iff
    {raw : String}
    {parameters : List String} :
    splitParameters raw = parameters ↔
      parameterEntries raw.toList = parameters.map String.toList := by
  rw [← map_toList_splitParameters]
  constructor
  · rintro rfl
    rfl
  · intro same
    exact List.map_injective_iff.mpr (fun _ _ => String.toList_inj.mp) same

/--
Parameters are read on either side of a comma on their own.  A text has exactly
those parameters that the pieces between its commas spell, whatever white space
and however many blank pieces stand around them.  So the list that is written
with a comma and a space between neighbours is a normal form: reading it gives
the parameters back.
-/
theorem splitParameters_normalForm :
    (∀ first second : String,
      splitParameters (first ++ "," ++ second) =
        splitParameters first ++ splitParameters second) ∧
    (∀ (raw : String) (parameters : List String),
      splitParameters raw = parameters ↔
        ∃ pieces : List String,
          SpellsEntries (parameters.map String.toList)
            (pieces.map String.toList) ∧
          raw = ",".intercalate pieces) ∧
    ∀ raw : String,
      splitParameters (", ".intercalate (splitParameters raw)) =
        splitParameters raw := by
  refine ⟨?_, ?_, ?_⟩
  · intro first second
    have atComma :
        (first ++ "," ++ second).toList =
          first.toList ++ ',' :: second.toList := by
      simp
    rw [splitParameters_eq_iff, atComma, parameterEntries_append_comma,
      List.map_append, map_toList_splitParameters,
      map_toList_splitParameters]
  · intro raw parameters
    rw [splitParameters_eq_iff, parameterEntries_eq_iff]
    constructor
    · rintro ⟨pieces, spells, whole⟩
      have sameAgain :
          (pieces.map String.ofList).map String.toList = pieces := by
        simp [Function.comp_def]
      refine ⟨pieces.map String.ofList, ?_, ?_⟩
      · rwa [sameAgain]
      · rw [← String.toList_inj, whole, String.toList_intercalate,
          sameAgain]
        rfl
    · rintro ⟨pieces, spells, rfl⟩
      exact ⟨pieces.map String.toList, spells, String.toList_intercalate⟩
  · intro raw
    have written :
        (", ".intercalate (splitParameters raw)).toList =
          joinEntries (parameterEntries raw.toList) := by
      rw [String.toList_intercalate, map_toList_splitParameters]
      rfl
    rw [splitParameters_eq_iff, written, map_toList_splitParameters]
    exact
      parameterEntries_joinEntries fun _ member =>
        (isEntry_of_mem_parameterEntries member).1

/-- Blank pieces on either side of a parameter are no parameters. -/
example : splitParameters " , x,, " = ["x"] := by
  decide

end TestScribe.Source

import TestScribe.Proofs.Header.Definition
import TestScribe.Proofs.Locate.Extract

/-!
# Nested blocks

Two blocks are nested when the one that begins in the other also ends in it.
Blocks by indentation are nested whenever the inner header is not blank: it is
indented deeper than the outer one, so whatever ends the outer block ends the
inner one.  Where all blocks of a kind of header are nested, the innermost
candidate lies in every other that encloses the cursor.
-/

namespace TestScribe.Locate

open TestScribe.Block TestScribe.Header TestScribe.Source
open TestScribe.Text

/-- Where candidates are nested, the innermost one lies in all that enclose. -/
theorem Candidate.IsInnermost.inside_of_nested
    {header : HeaderKind}
    {block : BlockKind}
    {lines : List Line}
    {cursor : Nat}
    {candidate : Candidate}
    (innermost : candidate.IsInnermost header block lines cursor)
    (nested :
      ∀ outer inner : Candidate,
        outer.StandsIn header block lines →
          inner.StandsIn header block lines →
            outer.startLine < inner.startLine →
              inner.startLine ≤ outer.endLine →
                inner.endLine ≤ outer.endLine)
    {other : Candidate}
    (encloses : other.Encloses header block lines cursor) :
    other.startLine ≤ candidate.startLine ∧
      candidate.endLine ≤ other.endLine := by
  have lowest := innermost.lowest other encloses
  refine ⟨lowest, ?_⟩
  rcases Nat.lt_or_eq_of_le lowest with above | same
  · have beginsInside : candidate.startLine ≤ other.endLine :=
      Nat.le_trans innermost.start_le encloses.le_last
    exact
      nested other candidate encloses.toStandsIn
        innermost.toStandsIn above beginsInside
  · have isSame : other = candidate :=
      encloses.toStandsIn.eq_of_startLine_eq
        innermost.toStandsIn same
    exact Nat.le_of_eq (congrArg Candidate.endLine isSame).symm

/-- A block by indentation that begins in another at a line that is not blank
ends in it. -/
theorem indentation_end?_le_of_le
    {lines : List Line}
    {outer inner outerEnd innerEnd : Nat}
    {line : Line}
    (outerMeasured :
      BlockKind.indentation.end? lines outer = some outerEnd)
    (innerMeasured :
      BlockKind.indentation.end? lines inner = some innerEnd)
    (present : lines[inner]? = some line)
    (notBlank : isBlank line = false)
    (after : outer < inner)
    (inside : inner ≤ outerEnd) :
    innerEnd ≤ outerEnd := by
  refine Nat.le_of_not_lt fun overlap => ?_
  have outerBounds := BlockKind.end?_bounds outerMeasured
  have innerBounds := BlockKind.end?_bounds innerMeasured
  have outerPresent : lines[outer]? = some lines[outer] :=
    List.getElem?_eq_getElem (by omega)
  have next : lines[outerEnd + 1]? = some lines[outerEnd + 1] :=
    List.getElem?_eq_getElem (by omega)
  have deeper : indentation lines[outer] < indentation line :=
    (continuesBlock_iff _ _).mp
      (BlockKind.continuesBlock_of_le_end?
        outerMeasured outerPresent after inside present)
      notBlank
  have continued :
      continuesBlock (indentation lines[outer])
        lines[outerEnd + 1] = true :=
    continuesBlock_of_le (Nat.le_of_lt deeper)
      (BlockKind.continuesBlock_of_le_end?
        innerMeasured present (by omega) overlap next)
  rw [BlockKind.continuesBlock_after_end?
    outerMeasured outerPresent next] at continued
  exact nomatch continued

/-- The blocks of definitions are nested. -/
theorem definition_endLine_le_of_le
    {lines : List Line}
    {outer inner : Candidate}
    (outerStands : outer.StandsIn .definition .indentation lines)
    (innerStands : inner.StandsIn .definition .indentation lines)
    (after : outer.startLine < inner.startLine)
    (inside : inner.startLine ≤ outer.endLine) :
    inner.endLine ≤ outer.endLine := by
  rcases Option.bind_eq_some_iff.mp innerStands.declared with
    ⟨line, present, declared⟩
  exact
    indentation_end?_le_of_le outerStands.measured
      innerStands.measured present
      (isBlank_eq_false_of_definition? declared) after inside

/--
Blocks by indentation are nested wherever the inner header is not blank, and
the located definition lies in the block of every definition that holds the
cursor.
-/
theorem definition_blocks_nested :
    (∀ (lines : List Line) (outer inner : Nat) (line : Line),
      outer < inner →
        lines[inner]? = some line →
          isBlank line = false →
            ∃ outerEnd innerEnd,
              BlockKind.indentation.end? lines outer = some outerEnd ∧
                BlockKind.indentation.end? lines inner =
                    some innerEnd ∧
                  (inner ≤ outerEnd → innerEnd ≤ outerEnd)) ∧
      ∀ (source : String) (cursor : Nat) (record : FunctionRecord),
        extract source cursor "python" = some record →
          ∀ (start last : Nat) (line : Line) (signature : Signature),
            (linesOf source.toList)[start]? = some line →
              definition? line = some signature →
                BlockKind.indentation.end?
                    (linesOf source.toList) start = some last →
                  start ≤ cursor →
                    cursor ≤ last →
                      start ≤ record.startLine ∧
                        record.endLine ≤ last := by
  constructor
  · intro lines outer inner line after present notBlank
    have innerInside : inner < lines.length :=
      (List.getElem?_eq_some_iff.mp present).1
    have outerInside := Nat.lt_trans after innerInside
    rcases BlockKind.indentation.exists_end?_of_lt outerInside with
      ⟨outerEnd, outerMeasured⟩
    rcases BlockKind.indentation.exists_end?_of_lt innerInside with
      ⟨innerEnd, innerMeasured⟩
    exact
      ⟨outerEnd, innerEnd, outerMeasured, innerMeasured,
        indentation_end?_le_of_le outerMeasured innerMeasured
          present notBlank after⟩
  · intro source cursor record located start last line signature
      present declared measured start_le le_last
    rw [extract_eq_strategyOf_extract] at located
    rcases Strategy.extract_eq_some_iff.mp located with
      ⟨candidate, innermost, rfl⟩
    have encloses :
        (Candidate.mk signature start last).Encloses
          .definition .indentation (linesOf source.toList) cursor := by
      refine ⟨⟨?_, measured⟩, start_le, le_last⟩
      rw [present]
      exact declared
    exact
      innermost.inside_of_nested
        (fun _ _ => definition_endLine_le_of_le) encloses

/-- A definition inside another, with blank lines and tabs between them. -/
theorem definition_blocks_nested_tabs :
    (∃ outerEnd innerEnd,
      BlockKind.indentation.end?
          (linesOf "\tdef f(a):\n \n\t  def g():\n\n\t  a\nx".toList) 0 =
        some outerEnd ∧
      BlockKind.indentation.end?
          (linesOf "\tdef f(a):\n \n\t  def g():\n\n\t  a\nx".toList) 2 =
        some innerEnd ∧
      (2 ≤ outerEnd → innerEnd ≤ outerEnd)) ∧
      ∃ record,
        extract "\tdef f(a):\n \n\t  def g():\n\n\t  a\nx" 3 "python" =
          some record ∧
        BlockKind.indentation.end?
            (linesOf "\tdef f(a):\n \n\t  def g():\n\n\t  a\nx".toList) 0 =
          some 4 ∧
        0 ≤ record.startLine ∧ record.endLine ≤ 4 := by
  have located :
      extract "\tdef f(a):\n \n\t  def g():\n\n\t  a\nx" 3 "python" =
        some ⟨"g", "\t  def g():\n", 2, 3, "python", [], none⟩ := by
    decide
  have measured :
      BlockKind.indentation.end?
          (linesOf "\tdef f(a):\n \n\t  def g():\n\n\t  a\nx".toList) 0 =
        some 4 := by
    decide
  constructor
  · exact
      definition_blocks_nested.1 _ 0 2 "\t  def g():".toList
        (by decide) (by decide) (by decide)
  · exact
      ⟨_, located, measured,
        definition_blocks_nested.2 _ 3 _ located 0 4
          "\tdef f(a):".toList ⟨"f", ["a"], none⟩ (by decide)
          (by decide) measured (by decide) (by decide)⟩

end TestScribe.Locate

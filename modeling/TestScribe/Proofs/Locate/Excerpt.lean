import TestScribe.Proofs.Locate.Extract

/-!
# A located function alone

What is located depends only on the lines of the located function.  Cutting a
text off after that function changes where unclosed blocks end, but a header
inside the function that was passed over has its block end before the cursor,
so above the cut, and is passed over again.  Hence locating in the excerpt
alone finds the same function, and so does locating from its header line.
-/

namespace TestScribe.Locate

open TestScribe.Source

variable
    {header : HeaderKind}
    {block : BlockKind}
    {lines : List Line}
    {cursor : Nat}

/-- In a run of lines a block ends where it ends in the text, or with the run. -/
theorem BlockKind.end?_linesBetween
    {kind : BlockKind}
    {first final start last : Nat}
    (measured : kind.end? lines (first + start) = some last)
    (kept : first + start ≤ final) :
    kind.end? (linesBetween lines first final) start =
      some (min final last - first) := by
  have dropped :
      kind.end? (lines.drop first) start = some (last - first) := by
    rw [kind.end?_drop, measured, Option.map_some]
  rw [linesBetween, BlockKind.end?_take dropped (by omega)]
  simp only [Option.some.injEq]
  omega

namespace Candidate

/-- The candidate with the first `count` lines of its text left out. -/
def moveUp
    (candidate : Candidate)
    (count : Nat) :
    Candidate where
  signature := candidate.signature
  startLine := candidate.startLine - count
  endLine := candidate.endLine - count

/-- A candidate stands in the run of its own lines. -/
theorem StandsIn.linesBetween
    {candidate : Candidate}
    (stands : candidate.StandsIn header block lines) :
    (candidate.moveUp candidate.startLine).StandsIn header block
      (linesBetween lines candidate.startLine candidate.endLine) where
  declared := by
    have ordered := stands.bounds.1
    simp only [moveUp, Nat.sub_self]
    rw [getElem?_linesBetween (by omega), Nat.add_zero]
    exact stands.declared
  measured := by
    have measured :
        block.end? lines (candidate.startLine + 0) =
          some candidate.endLine :=
      stands.measured
    simp only [moveUp, Nat.sub_self]
    rw [BlockKind.end?_linesBetween measured stands.bounds.1,
      Nat.min_self]

/--
A candidate that encloses the cursor in a run of lines comes from one that
encloses it in the text, if the run holds the cursor.
-/
theorem Encloses.exists_of_linesBetween
    {first final : Nat}
    {inner : Candidate}
    (encloses :
      inner.Encloses header block
        (Source.linesBetween lines first final) (cursor - first))
    (first_le : first ≤ cursor)
    (le_final : cursor ≤ final) :
    ∃ outer : Candidate,
      outer.Encloses header block lines cursor ∧
        outer.startLine = first + inner.startLine := by
  have start_le := encloses.start_le
  have le_last := encloses.le_last
  have kept : first + inner.startLine ≤ final := by
    omega
  have declared := encloses.declared
  rw [getElem?_linesBetween kept, Option.bind_eq_some_iff] at declared
  rcases declared with ⟨line, present, declared⟩
  have inside := (List.getElem?_eq_some_iff.mp present).1
  rcases block.exists_end?_of_lt inside with ⟨last, measured⟩
  have ordered := (BlockKind.end?_bounds measured).1
  have shortened : inner.endLine = min final last - first := by
    have measuredInside :=
      BlockKind.end?_linesBetween measured kept
    rw [encloses.measured] at measuredInside
    exact Option.some.inj measuredInside
  refine
    ⟨⟨inner.signature, first + inner.startLine, last⟩,
      ⟨⟨?_, measured⟩, ?_, ?_⟩, rfl⟩
  · simp [present, declared]
  · show first + inner.startLine ≤ cursor
    omega
  · show cursor ≤ last
    omega

/-- An innermost candidate is innermost in the run of its own lines. -/
theorem IsInnermost.linesBetween
    {candidate : Candidate}
    (innermost : candidate.IsInnermost header block lines cursor) :
    (candidate.moveUp candidate.startLine).IsInnermost header block
      (Source.linesBetween lines candidate.startLine candidate.endLine)
      (cursor - candidate.startLine) := by
  have start_le := innermost.start_le
  have le_last := innermost.le_last
  refine
    ⟨⟨innermost.toStandsIn.linesBetween, ?_, ?_⟩, ?_⟩
  · simp [moveUp]
  · simp only [moveUp]
    omega
  · intro other encloses
    rcases encloses.exists_of_linesBetween start_le le_last with
      ⟨outer, outerEncloses, outerStart⟩
    have lowest := innermost.lowest outer outerEncloses
    simp only [moveUp]
    omega

/-- From its own header line every standing candidate is innermost. -/
theorem StandsIn.isInnermost_startLine
    {candidate : Candidate}
    (stands : candidate.StandsIn header block lines) :
    candidate.IsInnermost header block lines candidate.startLine where
  toStandsIn := stands
  start_le := Nat.le_refl _
  le_last := stands.bounds.1
  lowest := fun _ encloses => encloses.start_le

end Candidate

/-- The record of a candidate in the run of its own lines. -/
theorem recordIn_linesBetween
    {candidate : Candidate}
    (stands : candidate.StandsIn header block lines)
    (language : String) :
    (candidate.moveUp candidate.startLine).recordIn
        (linesBetween lines candidate.startLine candidate.endLine)
        language =
      { candidate.recordIn lines language with
        startLine := 0
        endLine := candidate.endLine - candidate.startLine } := by
  simp only [Candidate.recordIn, Candidate.moveUp, Nat.sub_self]
  rw [linesBetween_linesBetween stands.bounds.1]

/--
Locating in the excerpt alone answers the same record, counted from the first
line of the excerpt, and so does locating from the header line.
-/
theorem extract_code
    {source : String}
    {cursor : Nat}
    {language : String}
    {record : FunctionRecord}
    (located : extract source cursor language = some record) :
    extract record.code (cursor - record.startLine) language =
        some
          { record with
            startLine := 0
            endLine := record.endLine - record.startLine } ∧
      extract source record.startLine language = some record := by
  rw [extract_eq_strategyOf_extract] at located ⊢
  rw [extract_eq_strategyOf_extract]
  rcases Strategy.extract_eq_some_iff.mp located with
    ⟨candidate, innermost, rfl⟩
  have stands := innermost.toStandsIn
  rcases stands.bounds with ⟨ordered, inside⟩
  constructor
  · rw [Strategy.extract_eq_some_iff]
    simp only [Candidate.recordIn, String.toList_ofList]
    rw [linesOf_joinLines_linesBetween _ ordered inside]
    exact
      ⟨_, innermost.linesBetween,
        (recordIn_linesBetween stands language).symm⟩
  · rw [Strategy.extract_eq_some_iff]
    exact ⟨candidate, stands.isInnermost_startLine, rfl⟩

/-- The excerpt of a function that never closes and holds one that does. -/
theorem extract_code_unclosed :
    ∃ record,
      extract
          "x;\nfunction f(a) \x7b\n function g() \x7b\n \x7d\n if (a) \x7b\n"
          5 "javascript" = some record ∧
        record.startLine = 1 ∧ record.endLine = 5 ∧
          extract record.code 4 "javascript" =
            some { record with startLine := 0, endLine := 4 } := by
  have located :
      extract
          "x;\nfunction f(a) \x7b\n function g() \x7b\n \x7d\n if (a) \x7b\n"
          5 "javascript" =
        some
          ⟨"f", "function f(a) \x7b\n function g() \x7b\n \x7d\n if (a) \x7b\n",
            1, 5, "javascript", ["a"], none⟩ := by
    decide
  exact ⟨_, located, rfl, rfl, (extract_code located).1⟩

end TestScribe.Locate

import TestScribe.Locate.Measure
import TestScribe.Proofs.Block.Braces
import TestScribe.Proofs.Block.Indentation

/-!
# Measuring a block on a part of its text

Both kinds of block are measured from the header line downward, and neither
measure depends on the lines after the block or before the header.  So a block
has the same lines when text before it is left out, and the same lines, cut off
where the text is, when text after some line is left out.
-/

namespace TestScribe.Locate

open TestScribe.Block TestScribe.Source

namespace BlockKind

theorem extent_le_length
    (kind : BlockKind)
    (header : Line)
    (below : List Line) :
    kind.extent header below ≤ below.length := by
  cases kind with
  | braces => exact braceExtent_le_length header below
  | indentation => exact indentExtent_le_length header below

/-- A block is measured in the same way on the front of a text. -/
theorem extent_take
    (kind : BlockKind)
    (header : Line)
    (below : List Line)
    (count : Nat) :
    kind.extent header (below.take count) =
      min count (kind.extent header below) := by
  cases kind with
  | braces => exact braceExtent_take header below count
  | indentation => exact indentExtent_take header below count

/-- Where there is a line, its block ends after as many lines as it holds. -/
theorem end?_of_getElem?
    (kind : BlockKind)
    {lines : List Line}
    {start : Nat}
    {header : Line}
    (present : lines[start]? = some header) :
    kind.end? lines start =
      some (start + kind.extent header (lines.drop (start + 1))) := by
  rcases List.getElem?_eq_some_iff.mp present with ⟨inside, rfl⟩
  rw [end?, List.drop_eq_getElem_cons inside]

/-- A block has an end exactly when there is a line for its header. -/
theorem end?_eq_some_iff
    (kind : BlockKind)
    {lines : List Line}
    {start last : Nat} :
    kind.end? lines start = some last ↔
      ∃ header,
        lines[start]? = some header ∧
          last =
            start + kind.extent header (lines.drop (start + 1)) := by
  constructor
  · intro measured
    cases present : lines[start]? with
    | none =>
        have outside : lines.drop start = [] :=
          List.drop_eq_nil_iff.mpr
            (List.getElem?_eq_none_iff.mp present)
        simp [end?, outside] at measured
    | some header =>
        rw [kind.end?_of_getElem? present] at measured
        exact ⟨header, rfl, (Option.some.inj measured).symm⟩
  · rintro ⟨header, present, rfl⟩
    exact kind.end?_of_getElem? present

theorem exists_end?_of_lt
    (kind : BlockKind)
    {lines : List Line}
    {start : Nat}
    (inside : start < lines.length) :
    ∃ last, kind.end? lines start = some last :=
  ⟨_, kind.end?_of_getElem? (List.getElem?_eq_getElem inside)⟩

/-- A block ends no earlier than it begins, and inside its text. -/
theorem end?_bounds
    {kind : BlockKind}
    {lines : List Line}
    {start last : Nat}
    (measured : kind.end? lines start = some last) :
    start ≤ last ∧ last < lines.length := by
  rcases kind.end?_eq_some_iff.mp measured with ⟨header, present, rfl⟩
  have inside : start < lines.length :=
    (List.getElem?_eq_some_iff.mp present).1
  have bound :=
    kind.extent_le_length header (lines.drop (start + 1))
  rw [List.length_drop] at bound
  omega

/-- Leaving out lines before a block moves its end up by as many lines. -/
theorem end?_drop
    (kind : BlockKind)
    (lines : List Line)
    (count start : Nat) :
    kind.end? (lines.drop count) start =
      (kind.end? lines (count + start)).map (· - count) := by
  rw [end?, end?, List.drop_drop]
  cases lines.drop (count + start) with
  | nil => rfl
  | cons header below =>
      simp only [Option.map_some, Option.some.injEq]
      omega

/-- Leaving out the lines from some line below the header on ends a block at the
line before, unless it ended earlier. -/
theorem end?_take
    {kind : BlockKind}
    {lines : List Line}
    {start last count : Nat}
    (measured : kind.end? lines start = some last)
    (kept : start < count) :
    kind.end? (lines.take count) start =
      some (min (count - 1) last) := by
  rcases kind.end?_eq_some_iff.mp measured with ⟨header, present, rfl⟩
  have stillPresent : (lines.take count)[start]? = some header := by
    rw [List.getElem?_take_of_lt kept, present]
  have belowTaken :
      (lines.take count).drop (start + 1) =
        (lines.drop (start + 1)).take (count - (start + 1)) :=
    List.drop_take
  rw [kind.end?_of_getElem? stillPresent, belowTaken, kind.extent_take]
  simp only [Option.some.injEq]
  omega

/-! ## Lines of a block by indentation -/

theorem continuesBlock_of_le_end?
    {lines : List Line}
    {start last index : Nat}
    {header line : Line}
    (measured : indentation.end? lines start = some last)
    (atStart : lines[start]? = some header)
    (after : start < index)
    (inside : index ≤ last)
    (atIndex : lines[index]? = some line) :
    continuesBlock (Text.indentation header) line = true := by
  rw [indentation.end?_of_getElem? atStart, Option.some.injEq] at measured
  have below :
      (lines.drop (start + 1))[index - (start + 1)]? = some line := by
    rw [List.getElem?_drop, ← atIndex]
    congr 1
    omega
  have within :
      index - (start + 1) <
        indentation.extent header (lines.drop (start + 1)) := by
    omega
  exact continuesBlock_of_lt_indentExtent below within

theorem continuesBlock_after_end?
    {lines : List Line}
    {start last : Nat}
    {header line : Line}
    (measured : indentation.end? lines start = some last)
    (atStart : lines[start]? = some header)
    (next : lines[last + 1]? = some line) :
    continuesBlock (Text.indentation header) line = false := by
  rw [indentation.end?_of_getElem? atStart, Option.some.injEq] at measured
  have below :
      (lines.drop (start + 1))[
          indentation.extent header (lines.drop (start + 1))]? =
        some line := by
    rw [List.getElem?_drop, ← next]
    congr 1
    omega
  exact continuesBlock_at_indentExtent below

end BlockKind

end TestScribe.Locate

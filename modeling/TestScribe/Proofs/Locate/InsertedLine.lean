import Mathlib.Data.List.InsertIdx
import TestScribe.Proofs.Locate.BlockEnd

/-!
# Lines put into a block

A line that is put in below the header leaves the header where it is, so the
block is measured again on the lines below with one more among them.  Between
braces, a line without braces makes a block one line longer, with one
exception: right below a header that has not opened a brace, or has closed all
it opened, the count is still zero, and the loop takes the new line for the end
of the block.
-/

namespace TestScribe.Locate

open TestScribe.Block TestScribe.Source

variable
    {lines : List Line}
    {header inserted : Line}
    {start last position : Nat}

theorem drop_insertIdx
    {count : Nat}
    (there : count ≤ lines.length)
    (kept : count ≤ position)
    (inserted : Line) :
    (lines.insertIdx position inserted).drop count =
      (lines.drop count).insertIdx (position - count) inserted := by
  induction lines generalizing count position with
  | nil =>
      rw [Nat.le_zero.mp there, List.drop_zero, List.drop_zero,
        Nat.sub_zero]
  | cons line lines ih =>
      cases count with
      | zero => rfl
      | succ count =>
          rcases Nat.exists_eq_add_of_le' kept with ⟨further, rfl⟩
          have behind :
              further + (count + 1) - (count + 1) =
                further + count - count := by
            omega
          rw [← Nat.add_assoc, List.insertIdx_succ_cons,
            List.drop_succ_cons, List.drop_succ_cons,
            ih (Nat.le_of_succ_le_succ there) (Nat.le_add_left _ _)]
          rw [Nat.add_assoc, behind]

/-- A block is measured again with the new line among the lines below. -/
theorem BlockKind.end?_insertIdx
    (kind : BlockKind)
    (present : lines[start]? = some header)
    (below : start < position) :
    kind.end? (lines.insertIdx position inserted) start =
      some
        (start +
          kind.extent header
            ((lines.drop (start + 1)).insertIdx
              (position - (start + 1)) inserted)) := by
  have there : start < lines.length :=
    (List.getElem?_eq_some_iff.mp present).1
  have stillPresent :
      (lines.insertIdx position inserted)[start]? = some header := by
    rw [List.getElem?_insertIdx_of_lt below, present]
  rw [kind.end?_of_getElem? stillPresent,
    drop_insertIdx (Nat.succ_le_of_lt there) (Nat.succ_le_of_lt below)]

/-- A line that leaves the count as it is moves the end of a block down with
it, or becomes the end itself. -/
theorem braces_end?_insertIdx
    (measured : BlockKind.braces.end? lines start = some last)
    (present : lines[start]? = some header)
    (unchanged : braceDelta inserted = 0)
    (below : start < position)
    (inside : position ≤ last) :
    BlockKind.braces.end? (lines.insertIdx position inserted) start =
      some
        (if position = start + 1 ∧ braceDelta header = 0 then position
          else last + 1) := by
  rw [BlockKind.braces.end?_of_getElem? present,
    Option.some.injEq] at measured
  have within :
      position - (start + 1) <
        BlockKind.braces.extent header (lines.drop (start + 1)) := by
    omega
  have isFirst :
      position - (start + 1) = 0 ↔ position = start + 1 := by
    omega
  have longer := braceExtent_insertIdx unchanged within
  rw [BlockKind.braces.end?_insertIdx present below, BlockKind.extent,
    longer]
  simp only [isFirst]
  split
  · next stays => rw [stays.1]
  · rw [← measured]
    rfl

/--
A line without braces that is put into a block makes it one line longer, unless
it stands right below a header with as many opening as closing braces.  There
the block is cut short: the new line ends it.
-/
theorem braceless_line_lengthens_block_iff
    (measured : BlockKind.braces.end? lines start = some last)
    (present : lines[start]? = some header)
    (noOpening : '{' ∉ inserted)
    (noClosing : '}' ∉ inserted)
    (below : start < position)
    (inside : position ≤ last) :
    (BlockKind.braces.end? (lines.insertIdx position inserted) start =
        some (last + 1) ↔
      ¬ (position = start + 1 ∧
          header.count '{' = header.count '}')) ∧
      (position = start + 1 →
        header.count '{' = header.count '}' →
          BlockKind.braces.end?
              (lines.insertIdx position inserted) start =
            some position) := by
  have moved :=
    braces_end?_insertIdx measured present
      (braceDelta_eq_zero_of_not_mem noOpening noClosing) below inside
  simp only [braceDelta_eq_zero_iff] at moved
  rw [moved]
  constructor
  · split
    · next stays =>
      simp only [Option.some.injEq]
      constructor
      · intro same
        omega
      · intro differs
        exact absurd stays differs
    · next differs => exact ⟨fun _ => differs, fun _ => rfl⟩
  · intro isFirst balanced
    rw [if_pos ⟨isFirst, balanced⟩]

/-- A comment below the brace that opens the block. -/
theorem braceless_line_lengthens_block_iff_comment :
    BlockKind.braces.end?
        ["function f()".toList, "\x7b".toList, "\x7d".toList] 0 =
      some 2 ∧
      BlockKind.braces.end?
          ["function f()".toList, "\x7b".toList, "  // rest".toList,
            "\x7d".toList] 0 =
        some 3 := by
  have measured :
      BlockKind.braces.end?
          ["function f()".toList, "\x7b".toList, "\x7d".toList] 0 =
        some 2 := by
    decide
  have noOpening : '{' ∉ "  // rest".toList := by
    decide
  refine ⟨measured, ?_⟩
  exact
    (braceless_line_lengthens_block_iff measured rfl noOpening
      (by decide) (by decide) (le_refl 2)).1.mpr (by decide)

/-- A blank line between a header and the brace that opens its block. -/
theorem blank_line_cuts_block_short :
    BlockKind.braces.end?
        ["function f()".toList, "\x7b".toList, "\x7d".toList] 0 =
      some 2 ∧
      BlockKind.braces.end?
          (["function f()".toList, "\x7b".toList,
            "\x7d".toList].insertIdx 1 []) 0 =
        some 1 := by
  decide

end TestScribe.Locate

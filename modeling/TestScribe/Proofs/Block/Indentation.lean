import TestScribe.Block.Indentation
import TestScribe.Proofs.Text.Run

/-!
# Where a block by indentation stops

A block by indentation stops before the first line below its header that does
not continue it.  As with braces, the measure of a block depends only on the
lines up to that one.
-/

namespace TestScribe.Block

open TestScribe.Source TestScribe.Text

/-- A line continues a block when it is indented deeper or is blank. -/
theorem continuesBlock_iff
    (width : Nat)
    (line : Line) :
    continuesBlock width line = true ↔
      (isBlank line = false → width < indentation line) := by
  cases blank : isBlank line <;> simp [continuesBlock, blank]

theorem continuesBlock_of_le
    {shallow deep : Nat}
    {line : Line}
    (ordered : shallow ≤ deep)
    (continued : continuesBlock deep line = true) :
    continuesBlock shallow line = true := by
  rw [continuesBlock_iff] at continued ⊢
  intro notBlank
  exact Nat.lt_of_le_of_lt ordered (continued notBlank)

/-- The extent is the position of the first line that does not continue. -/
theorem indentExtent_eq_findIdx
    (header : Line)
    (below : List Line) :
    indentExtent header below =
      below.findIdx fun line =>
        !continuesBlock (indentation header) line := by
  rw [indentExtent, List.takeWhile_eq_take_findIdx_not,
    List.length_take]
  exact Nat.min_eq_left List.findIdx_le_length

theorem indentExtent_le_length
    (header : Line)
    (below : List Line) :
    indentExtent header below ≤ below.length := by
  rw [indentExtent_eq_findIdx]
  exact List.findIdx_le_length

/-- A block by indentation is measured in the same way on the front of a text. -/
theorem indentExtent_take
    (header : Line)
    (below : List Line)
    (count : Nat) :
    indentExtent header (below.take count) =
      min count (indentExtent header below) := by
  simp [indentExtent, ← List.take_takeWhile]

theorem continuesBlock_of_lt_indentExtent
    {header line : Line}
    {below : List Line}
    {index : Nat}
    (present : below[index]? = some line)
    (inside : index < indentExtent header below) :
    continuesBlock (indentation header) line = true := by
  rw [indentExtent_eq_findIdx] at inside
  rcases List.getElem?_eq_some_iff.mp present with ⟨_, rfl⟩
  simpa using List.not_of_lt_findIdx inside

theorem continuesBlock_at_indentExtent
    {header line : Line}
    {below : List Line}
    (present : below[indentExtent header below]? = some line) :
    continuesBlock (indentation header) line = false := by
  rw [indentExtent_eq_findIdx] at present
  simpa using List.findIdx_of_getElem?_eq_some present

/-- Lines that continue a block, followed by none that does, are its extent. -/
theorem indentExtent_append
    {header : Line}
    {body after : List Line}
    (continued :
      ∀ line ∈ body,
        continuesBlock (indentation header) line = true)
    (stopped :
      ∀ line ∈ after.head?,
        continuesBlock (indentation header) line = false) :
    indentExtent header (body ++ after) = body.length := by
  rw [indentExtent, takeWhile_append_of_boundary continued stopped]

/-! ## Inserted lines -/

theorem continuesBlock_of_isBlank
    {line : Line}
    (blank : isBlank line = true)
    (width : Nat) :
    continuesBlock width line = true := by
  rw [continuesBlock, blank, Bool.true_or]

/-- A blank line becomes part of a block when it is put into it or right behind
it; further down it changes nothing. -/
theorem indentExtent_insertIdx
    {inserted : Line}
    {below : List Line}
    {index : Nat}
    (header : Line)
    (blank : isBlank inserted = true)
    (there : index ≤ below.length) :
    indentExtent header (below.insertIdx index inserted) =
      if index ≤ indentExtent header below then
        indentExtent header below + 1
      else
        indentExtent header below :=
  length_takeWhile_insertIdx (continuesBlock_of_isBlank blank _) there

end TestScribe.Block

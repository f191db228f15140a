import TestScribe.Source.Lines

/-!
# Cutting a text into lines and joining them again

Cutting and joining are inverse to each other: the lines of a text join to the
text, and lines that hold no line feed are what their join is cut into.  An
excerpt is there exactly when its positions are, and then it is a run of
neighbouring lines.
-/

namespace TestScribe.Source

@[simp]
theorem joinLines_linesOf
    (text : List Char) :
    joinLines (linesOf text) = text :=
  List.intercalate_splitOn '\n'

/-- A join holds its lines and a line feed between neighbouring ones. -/
theorem length_joinLines
    {lines : List Line}
    (nonempty : lines ≠ []) :
    (joinLines lines).length + 1 =
      lines.flatten.length + lines.length := by
  induction lines with
  | nil => exact absurd rfl nonempty
  | cons line others ih =>
      cases others with
      | nil => simp [joinLines]
      | cons next others =>
          have later := ih (List.cons_ne_nil next others)
          rw [joinLines] at later ⊢
          rw [List.intercalate_cons_cons, List.length_append,
            List.length_append, List.length_singleton, List.flatten_cons,
            List.length_append, List.length_cons]
          omega

/-- The line feeds in a join of lines that hold none stand between them. -/
theorem count_lineFeed_joinLines
    {lines : List Line}
    (nonempty : lines ≠ [])
    (unbroken : ∀ line ∈ lines, '\n' ∉ line) :
    (joinLines lines).count '\n' + 1 = lines.length := by
  induction lines with
  | nil => exact absurd rfl nonempty
  | cons line others ih =>
      have inFirst : line.count '\n' = 0 :=
        List.count_eq_zero.mpr (unbroken line List.mem_cons_self)
      cases others with
      | nil => simp [joinLines, inFirst]
      | cons next others =>
          have later :=
            ih (List.cons_ne_nil next others)
              fun other member =>
                unbroken other (List.mem_cons_of_mem _ member)
          rw [joinLines] at later ⊢
          rw [List.intercalate_cons_cons, List.count_append,
            List.count_append, inFirst, List.length_cons, ← later,
            List.count_singleton_self]
          omega

/-- Lines without line feeds are what their join is cut into. -/
theorem linesOf_joinLines
    {lines : List Line}
    (nonempty : lines ≠ [])
    (unbroken : ∀ line ∈ lines, '\n' ∉ line) :
    linesOf (joinLines lines) = lines :=
  List.splitOn_intercalate '\n' unbroken nonempty

/-- No piece of a text that is cut at a separator holds the separator. -/
theorem separator_not_mem_of_mem_splitOn {α : Type} [DecidableEq α]
    {separator : α}
    {text piece : List α}
    (member : piece ∈ text.splitOn separator) :
    separator ∉ piece := by
  induction text generalizing piece with
  | nil =>
      have isEmpty : piece = [] := by
        simpa using member
      simp [isEmpty]
  | cons character rest ih =>
      rw [List.splitOn_cons_eq_if_modifyHead] at member
      split at member
      · rcases List.mem_cons.mp member with isEmpty | later
        · simp [isEmpty]
        · exact ih later
      · next notSeparator =>
        have restNonempty := List.splitOn_ne_nil separator rest
        rcases List.exists_cons_of_ne_nil restNonempty with
          ⟨first, others, cut⟩
        rw [cut, List.modifyHead_cons] at member
        rcases List.mem_cons.mp member with isFirst | later
        · have notInFirst : separator ∉ first :=
            ih (cut ▸ List.mem_cons_self)
          have differs : separator ≠ character := by
            intro equal
            exact notSeparator (beq_iff_eq.mpr equal.symm)
          simp [isFirst, differs, notInFirst]
        · exact ih (cut ▸ List.mem_cons_of_mem _ later)

/-- The pieces of a text that is cut hold no other characters than the text. -/
theorem subset_of_mem_splitOn
    {separator : Char}
    {text piece : List Char}
    (member : piece ∈ text.splitOn separator) :
    piece ⊆ text := by
  induction text generalizing piece with
  | nil =>
      have isEmpty : piece = [] := by
        simpa using member
      simp [isEmpty]
  | cons character rest ih =>
      have inRest {other : List Char} (cut : other ∈ rest.splitOn separator) :
          other ⊆ character :: rest :=
        List.subset_cons_of_subset character (ih cut)
      rw [List.splitOn_cons_eq_if_modifyHead] at member
      split at member
      · rcases List.mem_cons.mp member with isEmpty | later
        · simp [isEmpty]
        · exact inRest later
      · rcases List.exists_cons_of_ne_nil
            (List.splitOn_ne_nil separator rest) with
          ⟨first, others, cut⟩
        rw [cut, List.modifyHead_cons] at member
        rcases List.mem_cons.mp member with isFirst | later
        · rw [isFirst]
          exact
            List.cons_subset_cons character
              (ih (cut ▸ List.mem_cons_self))
        · exact inRest (cut ▸ List.mem_cons_of_mem _ later)

theorem lineFeed_not_mem_of_mem_linesOf
    {text : List Char}
    {line : Line}
    (member : line ∈ linesOf text) :
    '\n' ∉ line :=
  separator_not_mem_of_mem_splitOn member

/-- Texts on both sides of a line feed are cut on their own. -/
theorem linesOf_append_lineFeed
    (first second : List Char) :
    linesOf (first ++ '\n' :: second) =
      linesOf first ++ linesOf second :=
  List.splitOn_append_cons_self first second

theorem linesOf_toList_append
    (first second : String) :
    linesOf (first ++ "\n" ++ second).toList =
      linesOf first.toList ++ linesOf second.toList := by
  have lineFeed : "\n".toList = ['\n'] := by
    decide
  rw [String.toList_append, String.toList_append, lineFeed,
    List.append_assoc, List.singleton_append, linesOf_append_lineFeed]

/-! ## Runs of neighbouring lines -/

/-- The lines at the positions `first … last`. -/
def linesBetween
    (lines : List Line)
    (first last : Nat) :
    List Line :=
  (lines.drop first).take (last + 1 - first)

/-- An excerpt whose positions are all there is the run of lines between them. -/
theorem excerpt?_of_lt
    {lines : List Line}
    {first last : Nat}
    (ordered : first ≤ last)
    (inside : last < lines.length) :
    excerpt? lines first last = some (linesBetween lines first last) := by
  rw [excerpt?, if_pos ⟨Nat.le_succ_of_le ordered, inside⟩]
  rfl

theorem length_linesBetween
    {lines : List Line}
    (first : Nat)
    {last : Nat}
    (inside : last < lines.length) :
    (linesBetween lines first last).length = last + 1 - first := by
  rw [linesBetween, List.length_take, List.length_drop]
  omega

/-- The lines of a run are those of the text, counted from its first. -/
theorem getElem?_linesBetween
    {lines : List Line}
    {first last index : Nat}
    (inside : first + index ≤ last) :
    (linesBetween lines first last)[index]? =
      lines[first + index]? := by
  rw [linesBetween, List.getElem?_take_of_lt (by omega),
    List.getElem?_drop]

/-- A run that is all there is its own run from first to last. -/
theorem linesBetween_linesBetween
    {lines : List Line}
    {first last : Nat}
    (ordered : first ≤ last) :
    linesBetween (linesBetween lines first last) 0 (last - first) =
      linesBetween lines first last := by
  have size : last - first + 1 - 0 = last + 1 - first := by
    omega
  rw [linesBetween, size, List.drop_zero, linesBetween,
    List.take_take, Nat.min_self]

/-- Cutting the join of a run gives the run back. -/
theorem linesOf_joinLines_linesBetween
    (text : List Char)
    {first last : Nat}
    (ordered : first ≤ last)
    (inside : last < (linesOf text).length) :
    linesOf (joinLines (linesBetween (linesOf text) first last)) =
      linesBetween (linesOf text) first last := by
  apply linesOf_joinLines
  · intro isEmpty
    have length := length_linesBetween first inside
    rw [isEmpty, List.length_nil] at length
    omega
  · intro line member
    exact
      lineFeed_not_mem_of_mem_linesOf
        (List.mem_of_mem_drop (List.mem_of_mem_take member))

/-- A run is not changed by lines after it. -/
theorem linesBetween_append_left
    {lines : List Line}
    (after : List Line)
    {last : Nat}
    (first : Nat)
    (inside : last < lines.length) :
    linesBetween (lines ++ after) first last =
      linesBetween lines first last := by
  rw [linesBetween, linesBetween]
  rcases Nat.lt_or_ge last first with empty | ordered
  · have nothing : last + 1 - first = 0 := by
      omega
    rw [nothing, List.take_zero, List.take_zero]
  · have before : first ≤ lines.length := by
      omega
    rw [List.drop_append_of_le_length before,
      List.take_append_of_le_length]
    rw [List.length_drop]
    omega

/-- A run is found after other lines, as many lines further down. -/
theorem linesBetween_append_right
    (before lines : List Line)
    (first last : Nat) :
    linesBetween (before ++ lines)
        (first + before.length) (last + before.length) =
      linesBetween lines first last := by
  have size :
      last + before.length + 1 - (first + before.length) =
        last + 1 - first := by
    omega
  rw [linesBetween, linesBetween, size, Nat.add_comm first,
    List.drop_length_add_append]

/-- A run begins with its first line. -/
theorem linesBetween_eq_cons
    {lines : List Line}
    {first : Nat}
    {line : Line}
    (present : lines[first]? = some line)
    (count : Nat) :
    linesBetween lines first (first + count) =
      line :: (lines.drop (first + 1)).take count := by
  rcases List.getElem?_eq_some_iff.mp present with ⟨inside, rfl⟩
  have size : first + count + 1 - first = count + 1 := by
    omega
  rw [linesBetween, size, List.drop_eq_getElem_cons inside,
    List.take_succ_cons]

end TestScribe.Source

import Mathlib.Order.Bounds.Basic
import TestScribe.Proofs.Locate.Measure
import TestScribe.Proofs.Source.Lines

/-!
# Block ends, declared

The end of a block is described here without the measuring loops: by the
greatest line up to which all lines continue a block by indentation, and by the
least line up to which the braces of a block are balanced.  Each description
singles out one line, and the measuring loops arrive at that line.
-/

namespace TestScribe.Locate

open TestScribe.Block TestScribe.Source TestScribe.Text

/--
`last` is the greatest line such that every line after `start` up to it is
blank or indented deeper than the line at `start`.
-/
def IsIndentEnd
    (lines : List Line)
    (start last : Nat) : Prop :=
  IsGreatest
    { row |
      start ≤ row ∧ row < lines.length ∧
        ∀ index header line,
          start < index → index ≤ row →
            lines[start]? = some header →
              lines[index]? = some line →
                isBlank line = false →
                  indentation header < indentation line }
    last

/-- The lines `first … last` hold as many opening as closing braces together. -/
def IsBalanced
    (lines : List Line)
    (first last : Nat) : Prop :=
  (linesBetween lines first last).flatten.count '{' =
    (linesBetween lines first last).flatten.count '}'

/--
`last` ends the block between braces at `start`: it is `start` itself if that
line closes what it opens, and otherwise the least later line up to which the
braces are balanced, or the last line of all if there is none.
-/
inductive IsBraceEnd
    (lines : List Line)
    (start : Nat) :
    Nat → Prop where
  | oneLine {header : Line}
      (present : lines[start]? = some header)
      (balanced : header.count '{' = header.count '}')
      (closing : '}' ∈ header) :
      IsBraceEnd lines start start
  | closed {header : Line} {last : Nat}
      (present : lines[start]? = some header)
      (stays :
        ¬ (header.count '{' = header.count '}' ∧ '}' ∈ header))
      (least :
        IsLeast
          { row |
            start < row ∧ row < lines.length ∧
              IsBalanced lines start row }
          last) :
      IsBraceEnd lines start last
  | unclosed {header : Line} {last : Nat}
      (present : lines[start]? = some header)
      (stays :
        ¬ (header.count '{' = header.count '}' ∧ '}' ∈ header))
      (never :
        ∀ row, start < row → row < lines.length →
          ¬ IsBalanced lines start row)
      (isFinal : last + 1 = lines.length) :
      IsBraceEnd lines start last

/-! ## Blocks by indentation -/

theorem isIndentEnd_of_end?
    {lines : List Line}
    {start last : Nat}
    (measured :
      BlockKind.indentation.end? lines start = some last) :
    IsIndentEnd lines start last := by
  have bounds := BlockKind.end?_bounds measured
  constructor
  · refine ⟨bounds.1, bounds.2, ?_⟩
    intro index header line after inside atStart atIndex notBlank
    have continued :=
      BlockKind.continuesBlock_of_le_end?
        measured atStart after inside atIndex
    exact (continuesBlock_iff _ _).mp continued notBlank
  · rintro row ⟨_, rowInside, allContinue⟩
    refine Nat.le_of_not_lt fun beyond => ?_
    have atStart : lines[start]? = some lines[start] :=
      List.getElem?_eq_getElem (by omega)
    have next : lines[last + 1]? = some lines[last + 1] :=
      List.getElem?_eq_getElem (by omega)
    have stopped :=
      BlockKind.continuesBlock_after_end? measured atStart next
    have continued :
        continuesBlock (indentation lines[start]) lines[last + 1] =
          true :=
      (continuesBlock_iff _ _).mpr
        (allContinue _ _ _ (by omega) beyond atStart next)
    rw [stopped] at continued
    exact nomatch continued

/-- Exactly the measured end of a block by indentation is its declared end. -/
theorem isIndentEnd_iff
    {lines : List Line}
    {start last : Nat} :
    IsIndentEnd lines start last ↔
      BlockKind.indentation.end? lines start = some last := by
  constructor
  · intro isEnd
    have inside : start < lines.length :=
      Nat.lt_of_le_of_lt isEnd.1.1 isEnd.1.2.1
    rcases BlockKind.indentation.exists_end?_of_lt inside with
      ⟨measured, measuredEq⟩
    rw [measuredEq,
      IsGreatest.unique isEnd (isIndentEnd_of_end? measuredEq)]
  · exact isIndentEnd_of_end?

/-! ## Blocks between braces -/

/-- A line closes itself when its braces are balanced and one of them closes. -/
theorem closesItself_iff
    (header : Line) :
    ClosesItself header ↔
      header.count '{' = header.count '}' ∧ '}' ∈ header := by
  rw [ClosesItself, braceDelta_eq_zero_iff]

/-- Lines are balanced when the running count is zero after them. -/
theorem isBalanced_iff
    {lines : List Line}
    {start : Nat}
    {header : Line}
    (present : lines[start]? = some header)
    (count : Nat) :
    IsBalanced lines start (start + count) ↔
      braceDelta header +
        braceDelta
          ((lines.drop (start + 1)).take count).flatten = 0 := by
  rw [IsBalanced, linesBetween_eq_cons present,
    ← braceDelta_eq_zero_iff, List.flatten_cons, braceDelta_append]

section Measured

variable
    {lines : List Line}
    {start last : Nat}
    {header : Line}

/-- Below a header that does not close itself the loop measures the block. -/
theorem braces_end?_of_not_closesItself
    (present : lines[start]? = some header)
    (stays : ¬ ClosesItself header)
    (measured : BlockKind.braces.end? lines start = some last) :
    last =
      start +
        linesToBalance (braceDelta header) (lines.drop (start + 1)) := by
  rw [BlockKind.end?_of_getElem? _ present, Option.some.injEq] at measured
  rw [← measured, ← braceExtent_of_not_closesItself stays]
  rfl

/-- Before the end of a block between braces the braces are not balanced. -/
theorem not_isBalanced_of_lt_end?
    (present : lines[start]? = some header)
    (stays : ¬ ClosesItself header)
    (measured : BlockKind.braces.end? lines start = some last)
    {row : Nat}
    (after : start < row)
    (before : row < last) :
    ¬ IsBalanced lines start row := by
  have lastEq :=
    braces_end?_of_not_closesItself present stays measured
  intro balanced
  rcases Nat.exists_eq_add_of_lt after with ⟨count, rfl⟩
  rw [Nat.add_assoc, isBalanced_iff present] at balanced
  exact runningCount_ne_zero_of_lt (by omega) (by omega) balanced

/-- A block between braces that ends before the last line is balanced there. -/
theorem isBalanced_of_end?_lt
    (present : lines[start]? = some header)
    (stays : ¬ ClosesItself header)
    (measured : BlockKind.braces.end? lines start = some last)
    (early : last + 1 < lines.length) :
    start < last ∧ IsBalanced lines start last := by
  have lastEq :=
    braces_end?_of_not_closesItself present stays measured
  have belowLength :
      (lines.drop (start + 1)).length = lines.length - (start + 1) :=
    List.length_drop
  have nonempty : lines.drop (start + 1) ≠ [] := by
    intro isEmpty
    rw [isEmpty, List.length_nil] at belowLength
    omega
  have positive := linesToBalance_pos (braceDelta header) nonempty
  refine ⟨by omega, ?_⟩
  rw [lastEq, isBalanced_iff present]
  exact runningCount_eq_zero_of_lt_length (by omega)

theorem isBraceEnd_of_end?
    (measured : BlockKind.braces.end? lines start = some last) :
    IsBraceEnd lines start last := by
  have bounds := BlockKind.end?_bounds measured
  rcases (BlockKind.end?_eq_some_iff _).mp measured with
    ⟨header, present, lastEq⟩
  by_cases closes : ClosesItself header
  · have isStart : last = start := by
      rw [lastEq]
      exact congrArg (start + ·) (braceExtent_of_closesItself closes _)
    subst isStart
    rcases (closesItself_iff header).mp closes with ⟨balanced, closing⟩
    exact .oneLine present balanced closing
  · have stays := mt (closesItself_iff header).mpr closes
    have openBefore :
        ∀ row, start < row → row < last →
          ¬ IsBalanced lines start row :=
      fun _ => not_isBalanced_of_lt_end? present closes measured
    -- Only a block that reaches the last line can be unbalanced there.
    by_cases balancedThere : start < last ∧ IsBalanced lines start last
    · refine
        .closed present stays
          ⟨⟨balancedThere.1, bounds.2, balancedThere.2⟩, ?_⟩
      rintro row ⟨after, _, balanced⟩
      exact
        Nat.le_of_not_lt fun sooner =>
          openBefore row after sooner balanced
    · have isFinal : last + 1 = lines.length := by
        refine
          Nat.le_antisymm bounds.2 (Nat.le_of_not_lt fun early => ?_)
        exact
          balancedThere
            (isBalanced_of_end?_lt present closes measured early)
      refine .unclosed present stays ?_ isFinal
      intro row after inside balanced
      rcases Nat.lt_or_ge row last with before | reached
      · exact openBefore row after before balanced
      · have isLast : row = last := by
          omega
        exact balancedThere ⟨isLast ▸ after, isLast ▸ balanced⟩

end Measured

theorem IsBraceEnd.unique
    {lines : List Line}
    {start first second : Nat}
    (firstEnd : IsBraceEnd lines start first)
    (secondEnd : IsBraceEnd lines start second) :
    first = second := by
  cases firstEnd with
  | oneLine present balanced closing =>
      cases secondEnd with
      | oneLine => rfl
      | closed otherPresent stays =>
          rw [present, Option.some.injEq] at otherPresent
          subst otherPresent
          exact absurd ⟨balanced, closing⟩ stays
      | unclosed otherPresent stays =>
          rw [present, Option.some.injEq] at otherPresent
          subst otherPresent
          exact absurd ⟨balanced, closing⟩ stays
  | closed present stays least =>
      cases secondEnd with
      | oneLine otherPresent balanced closing =>
          rw [present, Option.some.injEq] at otherPresent
          subst otherPresent
          exact absurd ⟨balanced, closing⟩ stays
      | closed _ _ otherLeast => exact least.unique otherLeast
      | unclosed _ _ never =>
          exact absurd least.1.2.2 (never _ least.1.1 least.1.2.1)
  | unclosed present stays never isFinal =>
      cases secondEnd with
      | oneLine otherPresent balanced closing =>
          rw [present, Option.some.injEq] at otherPresent
          subst otherPresent
          exact absurd ⟨balanced, closing⟩ stays
      | closed _ _ least =>
          exact absurd least.1.2.2 (never _ least.1.1 least.1.2.1)
      | unclosed _ _ _ otherFinal => omega

theorem IsBraceEnd.start_lt
    {lines : List Line}
    {start last : Nat}
    (isEnd : IsBraceEnd lines start last) :
    start < lines.length := by
  cases isEnd with
  | oneLine present => exact (List.getElem?_eq_some_iff.mp present).1
  | closed present => exact (List.getElem?_eq_some_iff.mp present).1
  | unclosed present => exact (List.getElem?_eq_some_iff.mp present).1

/-- Exactly the measured end of a block between braces is its declared end. -/
theorem isBraceEnd_iff
    {lines : List Line}
    {start last : Nat} :
    IsBraceEnd lines start last ↔
      BlockKind.braces.end? lines start = some last := by
  constructor
  · intro isEnd
    rcases BlockKind.braces.exists_end?_of_lt isEnd.start_lt with
      ⟨measured, measuredEq⟩
    rw [measuredEq, isEnd.unique (isBraceEnd_of_end? measuredEq)]
  · exact isBraceEnd_of_end?

end TestScribe.Locate

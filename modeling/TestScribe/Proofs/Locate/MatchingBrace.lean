import Mathlib.Data.Nat.Find
import TestScribe.Proofs.Locate.BlockEnd

/-!
# The brace that closes a block

The measuring loop looks at the running count only where a line ends.  Counted
character by character, the count of a block that was opened returns to zero at
a closing brace, and this may be in the middle of a line.  Since every
character changes the count by at most one, a count that is zero or below at
the end of a line was zero at a closing brace on that line or above.  So the
loop never stops above the line of the matching brace, and it stops on that
line exactly when nothing after the brace changes the count again, or when
there is no line below.
-/

namespace TestScribe.Block

open TestScribe.Source

/-- The text holds a closing brace that brings the count to zero. -/
def ReachesZero
    (depth : Int)
    (text : List Char) : Prop :=
  ∃ before after,
    text = before ++ '}' :: after ∧
      depth + braceDelta (before ++ ['}']) = 0

variable
    {depth : Int}

theorem eq_closing_of_braceStep_neg
    {character : Char}
    (falls : braceStep character < 0) :
    character = '}' := by
  rw [braceStep] at falls
  split at falls
  · exact absurd falls (by decide)
  · split at falls
    · next isClosing => exact beq_iff_eq.mp isClosing
    · exact absurd falls (by decide)

/-- A count above zero that falls to zero or below is zero at a closing brace. -/
theorem reachesZero_of_le_zero
    {text : List Char}
    (opened : 0 < depth)
    (fallen : depth + braceDelta text ≤ 0) :
    ReachesZero depth text := by
  induction text generalizing depth with
  | nil =>
      rw [braceDelta_nil] at fallen
      omega
  | cons character rest ih =>
      rw [braceDelta_cons, ← Int.add_assoc] at fallen
      by_cases closed : depth + braceStep character ≤ 0
      · have isClosing : character = '}' :=
          eq_closing_of_braceStep_neg (by omega)
        subst isClosing
        have step : braceStep '}' = -1 := by
          decide
        refine ⟨[], rest, rfl, ?_⟩
        rw [List.nil_append, braceDelta_cons, braceDelta_nil]
        omega
      · rcases ih (by omega) fallen with ⟨before, after, rfl, zero⟩
        refine ⟨character :: before, after, rfl, ?_⟩
        rw [List.cons_append, braceDelta_cons, ← Int.add_assoc]
        exact zero

/-- Lines that bring a count above zero to zero or below hold a closing brace
at which it is zero. -/
theorem exists_reachesZero_of_le_zero
    {below : List Line}
    {count : Nat}
    (opened : 0 < depth)
    (fallen : depth + braceDelta (below.take count).flatten ≤ 0) :
    ∃ fewer line,
      fewer < count ∧ below[fewer]? = some line ∧
        ReachesZero
          (depth + braceDelta (below.take fewer).flatten) line := by
  induction below generalizing depth count with
  | nil =>
      rw [List.take_nil, List.flatten_nil, braceDelta_nil] at fallen
      omega
  | cons line below ih =>
      cases count with
      | zero =>
          rw [List.take_zero, List.flatten_nil, braceDelta_nil] at fallen
          omega
      | succ count =>
          rw [List.take_succ_cons, List.flatten_cons, braceDelta_append,
            ← Int.add_assoc] at fallen
          by_cases closed : depth + braceDelta line ≤ 0
          · refine ⟨0, line, Nat.succ_pos count, rfl, ?_⟩
            rw [List.take_zero, List.flatten_nil, braceDelta_nil,
              Int.add_zero]
            exact reachesZero_of_le_zero opened closed
          · rcases ih (by omega) fallen with
              ⟨fewer, found, before, there, zero⟩
            refine ⟨fewer + 1, found, Nat.succ_lt_succ before, there, ?_⟩
            rw [List.take_succ_cons, List.flatten_cons,
              braceDelta_append, ← Int.add_assoc]
            exact zero

end TestScribe.Block

namespace TestScribe.Locate

open TestScribe.Block TestScribe.Source

/-! ## The matching brace, declared -/

/-- The text from the beginning of the line at `start` through `front`, with
which the line at `row` begins. -/
def textThrough
    (lines : List Line)
    (start row : Nat)
    (front : List Char) :
    List Char :=
  (linesBetween lines start (row - 1)).flatten ++ front

/-- On the line at `row`, below the line at `start`, stands a closing brace up
to which as many braces were closed as were opened. -/
def ClosesOn
    (lines : List Line)
    (start row : Nat) : Prop :=
  ∃ line before after,
    start < row ∧ lines[row]? = some line ∧
      line = before ++ '}' :: after ∧
        (textThrough lines start row (before ++ ['}'])).count '{' =
          (textThrough lines start row (before ++ ['}'])).count '}'

/--
`last` is the line of the brace that closes the block at `start`: the first
line below with a closing brace up to which as many braces were closed as were
opened, or the last line of all if there is none.
-/
inductive IsMatchingEnd
    (lines : List Line)
    (start : Nat) :
    Nat → Prop where
  | closed {last : Nat}
      (least : IsLeast { row | ClosesOn lines start row } last) :
      IsMatchingEnd lines start last
  | unclosed {last : Nat}
      (never : ∀ row, ¬ ClosesOn lines start row)
      (isFinal : last + 1 = lines.length) :
      IsMatchingEnd lines start last

variable
    {lines : List Line}
    {start last matching other : Nat}
    {header : Line}

theorem IsMatchingEnd.unique
    (isEnd : IsMatchingEnd lines start matching)
    (otherEnd : IsMatchingEnd lines start other) :
    matching = other := by
  cases isEnd with
  | closed least =>
      cases otherEnd with
      | closed otherLeast => exact least.unique otherLeast
      | unclosed never => exact absurd least.1 (never matching)
  | unclosed never isFinal =>
      cases otherEnd with
      | closed otherLeast => exact absurd otherLeast.1 (never other)
      | unclosed _ otherFinal => omega

theorem exists_isMatchingEnd
    (inside : start < lines.length) :
    ∃ matching, IsMatchingEnd lines start matching := by
  classical
  by_cases closes : ∃ row, ClosesOn lines start row
  · exact
      ⟨Nat.find closes,
        .closed
          ⟨Nat.find_spec closes, fun _ => Nat.find_min' closes⟩⟩
  · exact
      ⟨lines.length - 1,
        .unclosed (not_exists.mp closes) (by omega)⟩

theorem IsMatchingEnd.lt_length
    (isEnd : IsMatchingEnd lines start matching) :
    matching < lines.length := by
  cases isEnd with
  | closed least =>
      rcases least.1 with ⟨line, _, _, _, there, _⟩
      exact (List.getElem?_eq_some_iff.mp there).1
  | unclosed _ isFinal => omega

/-! ## The matching brace and the measuring loop -/

/-- Where the lines below bring the count to zero, they close the block. -/
theorem closesOn_of_reachesZero
    {fewer : Nat}
    {line : Line}
    (present : lines[start]? = some header)
    (there : (lines.drop (start + 1))[fewer]? = some line)
    (zero :
      ReachesZero
        (braceDelta header +
          braceDelta ((lines.drop (start + 1)).take fewer).flatten)
        line) :
    ClosesOn lines start (start + 1 + fewer) := by
  rcases zero with ⟨before, after, split, zero⟩
  have rowBefore : start + 1 + fewer - 1 = start + fewer := by
    omega
  refine ⟨line, before, after, by omega, ?_, split, ?_⟩
  · rw [← there, List.getElem?_drop]
  · rw [textThrough, rowBefore, linesBetween_eq_cons present,
      ← braceDelta_eq_zero_iff, List.flatten_cons, braceDelta_append,
      braceDelta_append]
    exact zero

/-- Lines that are balanced below a header that opens a block close it. -/
theorem exists_closesOn_of_isBalanced
    {row : Nat}
    (present : lines[start]? = some header)
    (opens : 0 < braceDelta header)
    (below : start < row)
    (balanced : IsBalanced lines start row) :
    ∃ closing, ClosesOn lines start closing ∧ closing ≤ row := by
  rcases Nat.exists_eq_add_of_lt below with ⟨count, rfl⟩
  rw [Nat.add_assoc, isBalanced_iff present] at balanced
  rcases exists_reachesZero_of_le_zero opens (le_of_eq balanced) with
    ⟨fewer, line, before, there, zero⟩
  exact
    ⟨start + 1 + fewer, closesOn_of_reachesZero present there zero,
      by omega⟩

/-- The loop does not stop above the line of the matching brace. -/
theorem IsMatchingEnd.le_end?
    (isEnd : IsMatchingEnd lines start matching)
    (present : lines[start]? = some header)
    (opens : 0 < braceDelta header)
    (measured : BlockKind.braces.end? lines start = some last) :
    matching ≤ last := by
  have stays : ¬ ClosesItself header := fun closes => by
    rw [closes.1] at opens
    exact absurd opens (Int.lt_irrefl 0)
  by_cases early : last + 1 < lines.length
  · rcases isBalanced_of_end?_lt present stays measured early with
      ⟨below, balanced⟩
    rcases exists_closesOn_of_isBalanced present opens below balanced with
      ⟨closing, closes, reached⟩
    cases isEnd with
    | closed least => exact (least.2 closes).trans reached
    | unclosed never => exact absurd closes (never closing)
  · have inside := isEnd.lt_length
    omega

/--
Below a header that opens more braces than it closes there is one line of the
matching brace, and the block ends there or further down.  It ends there exactly
when this is the last line of all or when the braces up to its end are balanced,
so that nothing after the matching brace opens or closes a block again.
-/
theorem block_ends_at_matching_brace_iff
    (present : lines[start]? = some header)
    (opens : header.count '}' < header.count '{') :
    ∃ last matching,
      BlockKind.braces.end? lines start = some last ∧
        IsMatchingEnd lines start matching ∧
          (∀ other,
            IsMatchingEnd lines start other → other = matching) ∧
            matching ≤ last ∧
              (last = matching ↔
                matching + 1 = lines.length ∨
                  IsBalanced lines start matching) := by
  have inside : start < lines.length :=
    (List.getElem?_eq_some_iff.mp present).1
  have rises : 0 < braceDelta header := by
    rw [braceDelta_eq_count_sub_count]
    omega
  have stays : ¬ ClosesItself header := fun closes => by
    rw [closes.1] at rises
    exact absurd rises (Int.lt_irrefl 0)
  rcases BlockKind.braces.exists_end?_of_lt inside with ⟨last, measured⟩
  rcases exists_isMatchingEnd inside with ⟨matching, isEnd⟩
  have reached := isEnd.le_end? present rises measured
  have bounds := BlockKind.end?_bounds measured
  refine
    ⟨last, matching, measured, isEnd, fun _ => (·.unique isEnd), reached, ?_⟩
  constructor
  · rintro rfl
    by_cases early : last + 1 < lines.length
    · exact
        .inr (isBalanced_of_end?_lt present stays measured early).2
    · exact .inl (by omega)
  · rintro (isFinal | balanced)
    · omega
    · refine Nat.le_antisymm (Nat.le_of_not_lt fun beyond => ?_) reached
      cases isEnd with
      | closed least =>
          rcases least.1 with ⟨_, _, _, below, _⟩
          exact
            not_isBalanced_of_lt_end? present stays measured below
              beyond balanced
      | unclosed _ isFinal => omega

/-- Two levels that are closed on one line. -/
theorem block_ends_at_matching_brace_iff_two_levels :
    "function f() \x7b".toList.count '}' <
        "function f() \x7b".toList.count '{' ∧
      ∃ last matching,
        BlockKind.braces.end?
            ["function f() \x7b".toList, "  if (x) \x7b".toList,
              "  \x7d\x7d".toList, "f();".toList] 0 =
          some last ∧
          IsMatchingEnd
            ["function f() \x7b".toList, "  if (x) \x7b".toList,
              "  \x7d\x7d".toList, "f();".toList] 0 matching ∧
            (last = matching ↔
              matching + 1 = 4 ∨
                IsBalanced
                  ["function f() \x7b".toList, "  if (x) \x7b".toList,
                    "  \x7d\x7d".toList, "f();".toList] 0 matching) := by
  have present :
      ["function f() \x7b".toList, "  if (x) \x7b".toList,
          "  \x7d\x7d".toList, "f();".toList][0]? =
        some "function f() \x7b".toList :=
    rfl
  refine ⟨by decide, ?_⟩
  rcases block_ends_at_matching_brace_iff present (by decide) with
    ⟨last, matching, measured, isEnd, -, -, same⟩
  exact ⟨last, matching, measured, isEnd, same⟩

/-- A line that closes a block and opens another one after it. -/
theorem reopened_block_runs_past_matching_brace :
    IsMatchingEnd
        ["const a = () => \x7b".toList, "\x7d, b = () => \x7b".toList,
          "\x7d;".toList] 0 1 ∧
      BlockKind.braces.end?
          ["const a = () => \x7b".toList, "\x7d, b = () => \x7b".toList,
            "\x7d;".toList] 0 =
        some 2 := by
  refine ⟨.closed ⟨?_, ?_⟩, by decide⟩
  · exact
      ⟨_, [], ", b = () => \x7b".toList, by decide, rfl, rfl, by decide⟩
  · rintro row ⟨_, _, _, below, _⟩
    exact below

end TestScribe.Locate

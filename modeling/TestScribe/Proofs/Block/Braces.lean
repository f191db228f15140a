import TestScribe.Block.Braces

/-!
# Where the running count of braces returns to zero

The measuring loop keeps one number, the running count.  After the first `n`
lines it is the count at the start plus what those lines change together, so
the loop is described without its state: it stops after the first `n` lines,
`n` positive, that bring the count to zero, or after all of them.  Since the
loop never looks beyond the line it stops at, it measures the front of a text
in the same way.
-/

namespace TestScribe.Block

open TestScribe.Source

/-! ## What a text changes -/

@[simp]
theorem braceDelta_nil :
    braceDelta [] = 0 :=
  rfl

@[simp]
theorem braceDelta_cons
    (character : Char)
    (rest : List Char) :
    braceDelta (character :: rest) =
      braceStep character + braceDelta rest :=
  rfl

@[simp]
theorem braceDelta_append
    (first second : List Char) :
    braceDelta (first ++ second) =
      braceDelta first + braceDelta second := by
  induction first with
  | nil => simp
  | cons character first ih =>
      rw [List.cons_append, braceDelta_cons, braceDelta_cons, ih,
        Int.add_assoc]

/-- A text changes the count by its opening braces less its closing ones. -/
theorem braceDelta_eq_count_sub_count
    (text : List Char) :
    braceDelta text = text.count '{' - text.count '}' := by
  induction text with
  | nil => simp
  | cons character rest ih =>
      rw [braceDelta_cons, ih, List.count_cons, List.count_cons]
      by_cases opens : character = '{'
      · have step : braceStep character = 1 := by
          simp [braceStep, opens]
        have notClosing : ('{' == '}') = false := by
          decide
        rw [step, opens, beq_self_eq_true, notClosing]
        simp only [if_true, Bool.false_eq_true, if_false]
        omega
      · by_cases closes : character = '}'
        · have step : braceStep character = -1 := by
            simp [braceStep, closes]
          have notOpening : ('}' == '{') = false := by
            decide
          rw [step, closes, beq_self_eq_true, notOpening]
          simp only [if_true, Bool.false_eq_true, if_false]
          omega
        · simp [braceStep, opens, closes]

/-- The count is unchanged exactly by texts with as many opening as closing
braces. -/
theorem braceDelta_eq_zero_iff
    (text : List Char) :
    braceDelta text = 0 ↔ text.count '{' = text.count '}' := by
  rw [braceDelta_eq_count_sub_count]
  omega

theorem braceDelta_eq_zero_of_not_mem
    {text : List Char}
    (noOpening : '{' ∉ text)
    (noClosing : '}' ∉ text) :
    braceDelta text = 0 := by
  rw [braceDelta_eq_zero_iff, List.count_eq_zero.mpr noOpening,
    List.count_eq_zero.mpr noClosing]

/-! ## The measuring loop -/

theorem linesToBalance_le_length
    (depth : Int)
    (below : List Line) :
    linesToBalance depth below ≤ below.length := by
  induction below generalizing depth with
  | nil => simp [linesToBalance]
  | cons line below ih =>
      have bound := ih (depth + braceDelta line)
      simp only [linesToBalance, List.length_cons]
      split <;> omega

theorem linesToBalance_pos
    (depth : Int)
    {below : List Line}
    (nonempty : below ≠ []) :
    0 < linesToBalance depth below := by
  cases below with
  | nil => exact absurd rfl nonempty
  | cons line below =>
      simp only [linesToBalance]
      split <;> omega

/-- On the front of a text the loop stops where it stops on the whole text, or
at the end of the front. -/
theorem linesToBalance_take
    (depth : Int)
    (below : List Line)
    (count : Nat) :
    linesToBalance depth (below.take count) =
      min count (linesToBalance depth below) := by
  induction below generalizing depth count with
  | nil => simp [linesToBalance]
  | cons line below ih =>
      cases count with
      | zero => simp [linesToBalance]
      | succ count =>
          simp only [List.take_succ_cons, linesToBalance]
          split
          · omega
          · rw [ih]
            omega

/-- The count is not zero after any line before the one the loop stops at. -/
theorem runningCount_ne_zero_of_lt
    {depth : Int}
    {below : List Line}
    {count : Nat}
    (positive : 0 < count)
    (before : count < linesToBalance depth below) :
    depth + braceDelta (below.take count).flatten ≠ 0 := by
  induction below generalizing depth count with
  | nil => simp [linesToBalance] at before
  | cons line below ih =>
      rcases Nat.exists_eq_add_one.mpr positive with ⟨count, rfl⟩
      simp only [linesToBalance] at before
      split at before
      · omega
      · next firstOpen =>
        rw [List.take_succ_cons, List.flatten_cons, braceDelta_append,
          ← Int.add_assoc]
        rcases Nat.eq_zero_or_pos count with isFirst | later
        · simpa [isFirst] using firstOpen
        · exact ih later (by omega)

/-- When the loop stops before the last line, it does so at a count of zero. -/
theorem runningCount_eq_zero_of_lt_length
    {depth : Int}
    {below : List Line}
    (stopped : linesToBalance depth below < below.length) :
    depth +
      braceDelta
        (below.take (linesToBalance depth below)).flatten = 0 := by
  induction below generalizing depth with
  | nil => simp at stopped
  | cons line below ih =>
      simp only [linesToBalance] at stopped ⊢
      split
      · next closed => simpa using closed
      · next firstOpen =>
        rw [if_neg firstOpen, List.length_cons] at stopped
        rw [Nat.add_comm 1, List.take_succ_cons, List.flatten_cons,
          braceDelta_append, ← Int.add_assoc]
        exact ih (by omega)

/-- The loop stops after `count` lines as soon as these bring the count to zero
and no fewer lines do. -/
theorem linesToBalance_eq
    {depth : Int}
    {below : List Line}
    {count : Nat}
    (positive : 0 < count)
    (inside : count ≤ below.length)
    (closed : depth + braceDelta (below.take count).flatten = 0)
    (openBefore :
      ∀ fewer, 0 < fewer → fewer < count →
        depth + braceDelta (below.take fewer).flatten ≠ 0) :
    linesToBalance depth below = count := by
  rcases Nat.lt_trichotomy (linesToBalance depth below) count with
    sooner | same | later
  · have nonempty : below ≠ [] := by
      intro isEmpty
      subst isEmpty
      exact absurd inside (Nat.not_le.mpr positive)
    have balanced :=
      runningCount_eq_zero_of_lt_length
        (Nat.lt_of_lt_of_le sooner inside)
    exact
      absurd balanced
        (openBefore _ (linesToBalance_pos depth nonempty) sooner)
  · exact same
  · exact
      absurd closed (runningCount_ne_zero_of_lt positive later)

/-! ## The extent of a block -/

/-- Does the line close what it opens, and close something? -/
def ClosesItself (header : Line) : Prop :=
  braceDelta header = 0 ∧ '}' ∈ header

theorem braceExtent_of_closesItself
    {header : Line}
    (closes : ClosesItself header)
    (below : List Line) :
    braceExtent header below = 0 := by
  rw [braceExtent]
  exact if_pos closes

theorem braceExtent_of_not_closesItself
    {header : Line}
    (stays : ¬ ClosesItself header)
    (below : List Line) :
    braceExtent header below =
      linesToBalance (braceDelta header) below := by
  rw [braceExtent]
  exact if_neg stays

theorem braceExtent_le_length
    (header : Line)
    (below : List Line) :
    braceExtent header below ≤ below.length := by
  by_cases closes : ClosesItself header
  · simp [braceExtent_of_closesItself closes]
  · rw [braceExtent_of_not_closesItself closes]
    exact linesToBalance_le_length _ below

/-- A block between braces is measured in the same way on the front of a text. -/
theorem braceExtent_take
    (header : Line)
    (below : List Line)
    (count : Nat) :
    braceExtent header (below.take count) =
      min count (braceExtent header below) := by
  by_cases closes : ClosesItself header
  · simp [braceExtent_of_closesItself closes]
  · simp only [braceExtent_of_not_closesItself closes]
    exact linesToBalance_take _ below count

/-! ## Inserted lines -/

/--
A line that leaves the count as it is, put in before the line the loop stops at,
is one line more.  Only in front of all lines can it stop the loop itself, when
the count has not left zero yet.
-/
theorem linesToBalance_insertIdx
    {depth : Int}
    {below : List Line}
    {inserted : Line}
    {index : Nat}
    (unchanged : braceDelta inserted = 0)
    (inside : index < linesToBalance depth below) :
    linesToBalance depth (below.insertIdx index inserted) =
      if index = 0 ∧ depth = 0 then 1
      else linesToBalance depth below + 1 := by
  induction below generalizing depth index with
  | nil => simp [linesToBalance] at inside
  | cons line below ih =>
      cases index with
      | zero =>
          rw [List.insertIdx_zero, linesToBalance, unchanged,
            Int.add_zero]
          simp [Nat.add_comm]
      | succ index =>
          simp only [linesToBalance] at inside
          split at inside
          · omega
          · next firstOpen =>
            have insideBelow :
                index < linesToBalance (depth + braceDelta line) below := by
              omega
            have later := ih insideBelow
            rw [if_neg (fun stays => firstOpen stays.2)] at later
            rw [List.insertIdx_succ_cons, linesToBalance,
              linesToBalance, if_neg firstOpen, if_neg firstOpen, later]
            simp [Nat.add_assoc]

theorem braceExtent_insertIdx
    {header inserted : Line}
    {below : List Line}
    {index : Nat}
    (unchanged : braceDelta inserted = 0)
    (inside : index < braceExtent header below) :
    braceExtent header (below.insertIdx index inserted) =
      if index = 0 ∧ braceDelta header = 0 then 1
      else braceExtent header below + 1 := by
  have stays : ¬ ClosesItself header := by
    intro closes
    rw [braceExtent_of_closesItself closes] at inside
    exact absurd inside (Nat.not_lt_zero index)
  rw [braceExtent_of_not_closesItself stays] at inside
  rw [braceExtent_of_not_closesItself stays,
    braceExtent_of_not_closesItself stays,
    linesToBalance_insertIdx unchanged inside]

/-! ## Lines that close at most one brace -/

/--
A count above zero that falls by at most one a line does not pass zero unseen:
once it is zero or below, the loop has stopped.
-/
theorem linesToBalance_le_of_runningCount_le_zero
    {depth : Int}
    {below : List Line}
    {count : Nat}
    (descends : ∀ line ∈ below, -1 ≤ braceDelta line)
    (opened : 0 < depth)
    (fallen : depth + braceDelta (below.take count).flatten ≤ 0) :
    linesToBalance depth below ≤ count := by
  induction below generalizing depth count with
  | nil => exact Nat.zero_le _
  | cons line below ih =>
      rcases List.forall_mem_cons.mp descends with
        ⟨lineDescends, belowDescend⟩
      cases count with
      | zero =>
          rw [List.take_zero, List.flatten_nil, braceDelta_nil] at fallen
          omega
      | succ count =>
          rw [List.take_succ_cons, List.flatten_cons, braceDelta_append,
            ← Int.add_assoc] at fallen
          simp only [linesToBalance]
          split
          · omega
          · have stopped := ih belowDescend (by omega) fallen
            omega

/-- The count is above zero after any line before the one the loop stops at. -/
theorem runningCount_pos_of_lt
    {depth : Int}
    {below : List Line}
    {count : Nat}
    (descends : ∀ line ∈ below, -1 ≤ braceDelta line)
    (opened : 0 < depth)
    (before : count < linesToBalance depth below) :
    0 < depth + braceDelta (below.take count).flatten := by
  refine Int.lt_of_not_ge fun fallen => ?_
  have stopped :=
    linesToBalance_le_of_runningCount_le_zero descends opened fallen
  omega

/--
A line below a header that opens a brace before the loop stops is closed before
the loop stops: where the outer count is zero, the count from that line on has
fallen below zero.
-/
theorem linesToBalance_nested
    {depth : Int}
    {before after : List Line}
    {inner : Line}
    (descends : ∀ line ∈ before ++ inner :: after, -1 ≤ braceDelta line)
    (opened : 0 < depth)
    (opens : braceDelta inner = 1)
    (inside :
      before.length <
        linesToBalance depth (before ++ inner :: after)) :
    before.length + 1 + linesToBalance 1 after ≤
      linesToBalance depth (before ++ inner :: after) := by
  have outerOpen := runningCount_pos_of_lt descends opened inside
  rw [List.take_left] at outerOpen
  have innerBound := linesToBalance_le_length 1 after
  rcases Nat.exists_eq_add_of_lt inside with ⟨count, outerEnd⟩
  rcases Nat.lt_or_ge count after.length with early | unclosed
  · have outerClosed :
        depth +
          braceDelta
            ((before ++ inner :: after).take
              (before.length + (count + 1))).flatten = 0 := by
      rw [← Nat.add_assoc, ← outerEnd]
      apply runningCount_eq_zero_of_lt_length
      rw [outerEnd, List.length_append, List.length_cons]
      omega
    rw [List.take_length_add_append, List.take_succ_cons,
      List.flatten_append, List.flatten_cons, braceDelta_append,
      braceDelta_append, opens] at outerClosed
    have innerClosed : linesToBalance 1 after ≤ count := by
      apply linesToBalance_le_of_runningCount_le_zero _ Int.one_pos
      · omega
      · intro line member
        apply descends
        exact List.mem_append_right _ (List.mem_cons_of_mem _ member)
    omega
  · omega

/-! ## Bodies that close what they open -/

/-- Lines between the line that opens a block and the one that closes it. -/
structure IsBraceBody
    (body : List Line) : Prop where
  staysOpen :
    ∀ count, count ≤ body.length →
      1 + braceDelta (body.take count).flatten ≠ 0
  balanced : 1 + braceDelta body.flatten = 1

instance (body : List Line) : Decidable (IsBraceBody body) :=
  decidable_of_iff
    ((∀ count, count ≤ body.length →
        1 + braceDelta (body.take count).flatten ≠ 0) ∧
      1 + braceDelta body.flatten = 1)
    ⟨fun ⟨staysOpen, balanced⟩ => ⟨staysOpen, balanced⟩,
      fun isBody => ⟨isBody.staysOpen, isBody.balanced⟩⟩

/-- A block ends with the line that closes it after its body. -/
theorem braceExtent_append_closing
    {header closing : Line}
    {body : List Line}
    (opens : braceDelta header = 1)
    (isBody : IsBraceBody body)
    (closes : braceDelta closing = -1)
    (after : List Line) :
    braceExtent header (body ++ closing :: after) = body.length + 1 := by
  have stays : ¬ ClosesItself header := by
    rintro ⟨unchanged, -⟩
    rw [opens] at unchanged
    exact nomatch unchanged
  rw [braceExtent_of_not_closesItself stays, opens]
  apply linesToBalance_eq (Nat.succ_pos _)
  · simp
  · have upToClosing :
        (body ++ closing :: after).take (body.length + 1) =
          body ++ [closing] := by
      simp [List.take_append, List.take_of_length_le]
    rw [upToClosing, List.flatten_append, List.flatten_singleton,
      braceDelta_append, ← Int.add_assoc, isBody.balanced, closes]
    rfl
  · intro fewer _ inBody
    have fits : fewer ≤ body.length := Nat.le_of_lt_succ inBody
    rw [List.take_append_of_le_length fits]
    exact isBody.staysOpen fewer fits

end TestScribe.Block

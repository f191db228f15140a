import TestScribe.Locate.Candidate
import TestScribe.Proofs.Locate.Measure

/-!
# What the upward scan finds

The scan is described without its order of steps.  A candidate stands in a text
when its signature is the one its first line declares and its last line is the
end of the block measured from there.  The scan finds the standing candidate
with the lowest header among those whose block holds the cursor, and finds
nothing exactly when there is none.
-/

namespace TestScribe.Locate

open TestScribe.Source

variable
    {header : HeaderKind}
    {block : BlockKind}
    {lines : List Line}
    {cursor : Nat}

/-- The candidate is what its first line declares, with its block measured. -/
structure Candidate.StandsIn
    (candidate : Candidate)
    (header : HeaderKind)
    (block : BlockKind)
    (lines : List Line) : Prop where
  declared :
    lines[candidate.startLine]?.bind header.signature? =
      some candidate.signature
  measured :
    block.end? lines candidate.startLine = some candidate.endLine

/-- The candidate stands in the text and its block holds the cursor. -/
structure Candidate.Encloses
    (candidate : Candidate)
    (header : HeaderKind)
    (block : BlockKind)
    (lines : List Line)
    (cursor : Nat) : Prop
    extends candidate.StandsIn header block lines where
  start_le : candidate.startLine ≤ cursor
  le_last : cursor ≤ candidate.endLine

/-- The candidate encloses the cursor and no other that does begins below it. -/
structure Candidate.IsInnermost
    (candidate : Candidate)
    (header : HeaderKind)
    (block : BlockKind)
    (lines : List Line)
    (cursor : Nat) : Prop
    extends candidate.Encloses header block lines cursor where
  lowest :
    ∀ other : Candidate,
      other.Encloses header block lines cursor →
        other.startLine ≤ candidate.startLine

namespace Candidate

@[simp]
theorem contains_iff
    (candidate : Candidate)
    (position : Nat) :
    candidate.contains position = true ↔
      candidate.startLine ≤ position ∧ position ≤ candidate.endLine := by
  simp [contains]

theorem StandsIn.eq_of_startLine_eq
    {first second : Candidate}
    (firstStands : first.StandsIn header block lines)
    (secondStands : second.StandsIn header block lines)
    (same : first.startLine = second.startLine) :
    first = second := by
  have sameSignature : first.signature = second.signature := by
    have declared := firstStands.declared
    rw [same, secondStands.declared] at declared
    exact (Option.some.inj declared).symm
  have sameEnd : first.endLine = second.endLine := by
    have measured := firstStands.measured
    rw [same, secondStands.measured] at measured
    exact (Option.some.inj measured).symm
  cases first
  cases second
  simp_all

theorem StandsIn.bounds
    {candidate : Candidate}
    (stands : candidate.StandsIn header block lines) :
    candidate.startLine ≤ candidate.endLine ∧
      candidate.endLine < lines.length :=
  BlockKind.end?_bounds stands.measured

/-- A declared header has a candidate that stands there. -/
theorem standsIn_of_declared
    (block : BlockKind)
    {position : Nat}
    {line : Line}
    {signature : Signature}
    (present : lines[position]? = some line)
    (declared : header.signature? line = some signature) :
    (Candidate.mk signature position
        (position +
          block.extent line (lines.drop (position + 1)))).StandsIn
      header block lines where
  declared := by simp [present, declared]
  measured := block.end?_of_getElem? present

theorem IsInnermost.unique
    {first second : Candidate}
    (firstInnermost : first.IsInnermost header block lines cursor)
    (secondInnermost : second.IsInnermost header block lines cursor) :
    first = second :=
  firstInnermost.toStandsIn.eq_of_startLine_eq
    secondInnermost.toStandsIn
    (Nat.le_antisymm
      (secondInnermost.lowest first firstInnermost.toEncloses)
      (firstInnermost.lowest second secondInnermost.toEncloses))

end Candidate

/-! ## The scan from one line upward -/

/--
What the scan answers when `above` is left to look at, nearest line first.
The next line looked at stands at position `above.length - 1`, so every
candidate that is still to come begins before `above.length`.
-/
def AnswersScan
    (header : HeaderKind)
    (block : BlockKind)
    (lines : List Line)
    (cursor bound : Nat) :
    Option Candidate → Prop
  | none =>
      ∀ other : Candidate,
        other.Encloses header block lines cursor →
          bound ≤ other.startLine
  | some candidate =>
      candidate.Encloses header block lines cursor ∧
        candidate.startLine < bound ∧
          ∀ other : Candidate,
            other.Encloses header block lines cursor →
              other.startLine < bound →
                other.startLine ≤ candidate.startLine

/-- A line at which no enclosing candidate stands may be passed over. -/
theorem AnswersScan.pass
    {bound : Nat}
    {answer : Option Candidate}
    (answers : AnswersScan header block lines cursor bound answer)
    (none_here :
      ∀ other : Candidate,
        other.Encloses header block lines cursor →
          other.startLine ≠ bound) :
    AnswersScan header block lines cursor (bound + 1) answer := by
  cases answer with
  | none =>
      intro other encloses
      exact
        Nat.lt_of_le_of_ne (answers other encloses)
          (none_here other encloses).symm
  | some candidate =>
      rcases answers with ⟨encloses, before, lowest⟩
      refine ⟨encloses, Nat.lt_succ_of_lt before, ?_⟩
      intro other otherEncloses otherBefore
      have notHere := none_here other otherEncloses
      exact lowest other otherEncloses (by omega)

/-- The scan answers for the lines it has left to look at. -/
theorem nearestEnclosing?_answers
    (header : HeaderKind)
    (block : BlockKind)
    (cursor : Nat)
    (above below : List Line) :
    AnswersScan header block (above.reverse ++ below) cursor above.length
      (nearestEnclosing? header block cursor above below) := by
  induction above generalizing below with
  | nil =>
      intro other encloses
      exact Nat.zero_le _
  | cons line above ih =>
      have sameLines :
          (line :: above).reverse ++ below =
            above.reverse ++ line :: below := by
        simp
      rw [sameLines, List.length_cons]
      have present :
          (above.reverse ++ line :: below)[above.length]? =
            some line := by
        simp
      have passed := ih (line :: below)
      simp only [nearestEnclosing?]
      split
      · next undeclared =>
        apply passed.pass
        intro other encloses same
        have declared := encloses.declared
        rw [same, present, Option.bind_some, undeclared] at declared
        exact nomatch declared
      · next signature declared =>
        have stands :=
          Candidate.standsIn_of_declared block present declared
        have belowDropped :
            (above.reverse ++ line :: below).drop (above.length + 1) =
              below := by
          simp [List.drop_append]
        rw [belowDropped] at stands
        split
        · next holds =>
          rcases (Candidate.contains_iff _ _).mp holds with
            ⟨start_le, le_last⟩
          refine ⟨⟨stands, start_le, le_last⟩, Nat.lt_succ_self _, ?_⟩
          intro other encloses before
          exact Nat.le_of_lt_succ before
        · next misses =>
          apply passed.pass
          intro other encloses same
          have isThis :=
            encloses.toStandsIn.eq_of_startLine_eq stands same
          subst isThis
          exact
            misses
              ((Candidate.contains_iff _ _).mpr
                ⟨encloses.start_le, encloses.le_last⟩)

/-! ## The scan from the cursor -/

/-- An enclosing candidate begins among the lines the scan looks at. -/
theorem Candidate.Encloses.startLine_lt
    {candidate : Candidate}
    (encloses : candidate.Encloses header block lines cursor) :
    candidate.startLine < (lines.take (cursor + 1)).length := by
  have bounds := encloses.toStandsIn.bounds
  have start_le := encloses.start_le
  rw [List.length_take]
  omega

/-- The scan answers for the whole text. -/
theorem enclosing?_answers
    (header : HeaderKind)
    (block : BlockKind)
    (lines : List Line)
    (cursor : Nat) :
    AnswersScan header block lines cursor
      (lines.take (cursor + 1)).length
      (enclosing? header block lines cursor) := by
  have answers :=
    nearestEnclosing?_answers header block cursor
      (lines.take (cursor + 1)).reverse (lines.drop (cursor + 1))
  rwa [List.reverse_reverse, List.take_append_drop,
    List.length_reverse] at answers

/-- The scan finds nothing exactly when no candidate encloses the cursor. -/
theorem enclosing?_eq_none_iff :
    enclosing? header block lines cursor = none ↔
      ∀ candidate : Candidate,
        ¬ candidate.Encloses header block lines cursor := by
  have answers := enclosing?_answers header block lines cursor
  constructor
  · intro nothing candidate encloses
    rw [nothing] at answers
    exact
      Nat.not_le.mpr encloses.startLine_lt
        (answers candidate encloses)
  · intro noneEncloses
    cases found : enclosing? header block lines cursor with
    | none => rfl
    | some candidate =>
        rw [found] at answers
        exact absurd answers.1 (noneEncloses candidate)

/-- Whatever the scan finds is innermost. -/
theorem isInnermost_of_enclosing?_eq_some
    {candidate : Candidate}
    (found : enclosing? header block lines cursor = some candidate) :
    candidate.IsInnermost header block lines cursor := by
  have answers := enclosing?_answers header block lines cursor
  rw [found] at answers
  rcases answers with ⟨encloses, before, lowest⟩
  refine ⟨encloses, ?_⟩
  intro other otherEncloses
  exact lowest other otherEncloses otherEncloses.startLine_lt

/-- The scan finds exactly the innermost candidate. -/
theorem enclosing?_eq_some_iff
    {candidate : Candidate} :
    enclosing? header block lines cursor = some candidate ↔
      candidate.IsInnermost header block lines cursor := by
  constructor
  · exact isInnermost_of_enclosing?_eq_some
  · intro innermost
    cases found : enclosing? header block lines cursor with
    | none =>
        exact
          absurd innermost.toEncloses
            (enclosing?_eq_none_iff.mp found candidate)
    | some other =>
        rw [innermost.unique
          (isInnermost_of_enclosing?_eq_some found)]

end TestScribe.Locate

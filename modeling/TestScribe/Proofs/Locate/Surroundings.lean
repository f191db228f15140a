import TestScribe.Proofs.Locate.Excerpt

/-!
# Text around a located function

Lines below a text let only those blocks grow that ran to its last line.  A
header above the cursor that was passed over has its block end before the
cursor, so inside the text, and is passed over again: the same header is found,
and only its own block may grow.  Lines above a text move every candidate down
by as many lines, and a header among them begins above every candidate of the
text.
-/

namespace TestScribe.Locate

open TestScribe.Source

variable
    {header : HeaderKind}
    {block : BlockKind}
    {lines before after : List Line}
    {cursor : Nat}
    {candidate : Candidate}

/-! ## Lines below -/

/-- Without the lines after a text its blocks end where they do with them, or on
its last line. -/
theorem BlockKind.end?_of_append
    {kind : BlockKind}
    {start last : Nat}
    (measured : kind.end? (lines ++ after) start = some last)
    (inside : start < lines.length) :
    kind.end? lines start = some (min (lines.length - 1) last) := by
  have front : (lines ++ after).take lines.length = lines :=
    List.take_left
  have shortened := BlockKind.end?_take measured inside
  rwa [front] at shortened

namespace Candidate

/-- The candidate in a text that is cut off after so many lines. -/
def cutOff
    (candidate : Candidate)
    (count : Nat) :
    Candidate :=
  { candidate with endLine := min (count - 1) candidate.endLine }

theorem StandsIn.cutOff
    (stands : candidate.StandsIn header block (lines ++ after))
    (inside : candidate.startLine < lines.length) :
    (candidate.cutOff lines.length).StandsIn header block lines where
  declared := by
    have declared := stands.declared
    rwa [List.getElem?_append_left inside] at declared
  measured := BlockKind.end?_of_append stands.measured inside

/-- Each candidate of a text is what is left of one with the lines after it. -/
theorem StandsIn.exists_longer
    (stands : candidate.StandsIn header block lines)
    (after : List Line) :
    ∃ longer : Candidate,
      longer.StandsIn header block (lines ++ after) ∧
        longer.cutOff lines.length = candidate := by
  have bounds := stands.bounds
  have inside : candidate.startLine < lines.length :=
    Nat.lt_of_le_of_lt bounds.1 bounds.2
  have insideBoth : candidate.startLine < (lines ++ after).length := by
    rw [List.length_append]
    exact Nat.lt_add_right _ inside
  rcases block.exists_end?_of_lt insideBoth with ⟨last, measured⟩
  have longerStands :
      (Candidate.mk candidate.signature candidate.startLine last).StandsIn
        header block (lines ++ after) := by
    refine ⟨?_, measured⟩
    rw [List.getElem?_append_left inside]
    exact stands.declared
  exact
    ⟨_, longerStands,
      (longerStands.cutOff inside).eq_of_startLine_eq stands rfl⟩

theorem Encloses.cutOff
    (encloses : candidate.Encloses header block (lines ++ after) cursor)
    (inside : cursor < lines.length) :
    (candidate.cutOff lines.length).Encloses header block lines cursor := by
  have start_le := encloses.start_le
  have le_last := encloses.le_last
  refine ⟨encloses.toStandsIn.cutOff (by omega), start_le, ?_⟩
  simp only [Candidate.cutOff]
  omega

/-- A candidate that encloses the cursor in a text comes from one that encloses
it with the lines after the text. -/
theorem Encloses.exists_longer
    (encloses : candidate.Encloses header block lines cursor)
    (after : List Line) :
    ∃ longer : Candidate,
      longer.Encloses header block (lines ++ after) cursor ∧
        longer.cutOff lines.length = candidate := by
  rcases encloses.toStandsIn.exists_longer after with
    ⟨longer, stands, rfl⟩
  refine ⟨longer, ⟨stands, encloses.start_le, ?_⟩, rfl⟩
  exact Nat.le_trans encloses.le_last (Nat.min_le_right _ _)

/-- The same header is innermost with lines after the text. -/
theorem IsInnermost.exists_longer
    (innermost : candidate.IsInnermost header block lines cursor)
    (inside : cursor < lines.length)
    (after : List Line) :
    ∃ longer : Candidate,
      longer.IsInnermost header block (lines ++ after) cursor ∧
        longer.cutOff lines.length = candidate := by
  rcases innermost.toEncloses.exists_longer after with
    ⟨longer, encloses, rfl⟩
  refine ⟨longer, ⟨encloses, ?_⟩, rfl⟩
  intro other otherEncloses
  exact
    innermost.lowest (other.cutOff lines.length)
      (otherEncloses.cutOff inside)

/-- A block that ends before the last line of a text does not grow. -/
theorem eq_of_cutOff_endLine_lt
    {count : Nat}
    (early : (candidate.cutOff count).endLine + 1 < count) :
    candidate.cutOff count = candidate := by
  simp only [cutOff] at early
  have same : min (count - 1) candidate.endLine = candidate.endLine := by
    omega
  rw [cutOff, same]

end Candidate

/-! ## Lines above -/

/-- Lines before a text move the ends of its blocks down. -/
theorem BlockKind.end?_append_right
    {kind : BlockKind}
    {start last : Nat}
    (measured : kind.end? lines start = some last)
    (before : List Line) :
    kind.end? (before ++ lines) (start + before.length) =
      some (last + before.length) := by
  rcases kind.end?_eq_some_iff.mp measured with ⟨header, present, rfl⟩
  have presentBelow :
      (before ++ lines)[start + before.length]? = some header := by
    rw [List.getElem?_append_right (Nat.le_add_left _ _),
      Nat.add_sub_cancel, present]
  have belowSame :
      (before ++ lines).drop (start + before.length + 1) =
        lines.drop (start + 1) := by
    rw [Nat.add_right_comm, Nat.add_comm, List.drop_length_add_append]
  rw [kind.end?_of_getElem? presentBelow, belowSame,
    Nat.add_right_comm]

namespace Candidate

/-- The candidate with so many lines put before its text. -/
def moveDown
    (candidate : Candidate)
    (count : Nat) :
    Candidate where
  signature := candidate.signature
  startLine := candidate.startLine + count
  endLine := candidate.endLine + count

theorem StandsIn.moveDown
    (stands : candidate.StandsIn header block lines)
    (before : List Line) :
    (candidate.moveDown before.length).StandsIn header block
      (before ++ lines) where
  declared := by
    simp only [Candidate.moveDown]
    rw [List.getElem?_append_right (Nat.le_add_left _ _),
      Nat.add_sub_cancel]
    exact stands.declared
  measured := BlockKind.end?_append_right stands.measured before

/-- A candidate that begins below the lines before a text comes from one of the
text. -/
theorem StandsIn.exists_moveDown
    (stands : candidate.StandsIn header block (before ++ lines))
    (below : before.length ≤ candidate.startLine) :
    ∃ inner : Candidate,
      inner.StandsIn header block lines ∧
        inner.moveDown before.length = candidate := by
  rcases Nat.exists_eq_add_of_le' below with ⟨start, startEq⟩
  have declared := stands.declared
  rw [startEq, List.getElem?_append_right (Nat.le_add_left _ _),
    Nat.add_sub_cancel, Option.bind_eq_some_iff] at declared
  rcases declared with ⟨line, present, declared⟩
  have innerStands :=
    Candidate.standsIn_of_declared block present declared
  exact
    ⟨_, innerStands,
      (innerStands.moveDown before).eq_of_startLine_eq
        stands startEq.symm⟩

/-- An innermost candidate is innermost with lines before its text. -/
theorem IsInnermost.moveDown
    (innermost : candidate.IsInnermost header block lines cursor)
    (before : List Line) :
    (candidate.moveDown before.length).IsInnermost header block
      (before ++ lines) (cursor + before.length) := by
  have start_le := innermost.start_le
  have le_last := innermost.le_last
  refine
    ⟨⟨innermost.toStandsIn.moveDown before,
      Nat.add_le_add_right start_le _,
      Nat.add_le_add_right le_last _⟩, ?_⟩
  intro other encloses
  simp only [Candidate.moveDown]
  rcases Nat.lt_or_ge other.startLine before.length with above | below
  · exact Nat.le_trans (Nat.le_of_lt above) (Nat.le_add_left _ _)
  · rcases encloses.toStandsIn.exists_moveDown below with
      ⟨inner, stands, rfl⟩
    have innerEncloses : inner.Encloses header block lines cursor :=
      ⟨stands, Nat.le_of_add_le_add_right encloses.start_le,
        Nat.le_of_add_le_add_right encloses.le_last⟩
    exact
      Nat.add_le_add_right (innermost.lowest inner innerEncloses) _

end Candidate

/-! ## Records with text around -/

theorem recordIn_moveDown
    (candidate : Candidate)
    (before lines : List Line)
    (language : String) :
    (candidate.moveDown before.length).recordIn (before ++ lines) language =
      { candidate.recordIn lines language with
        startLine := candidate.startLine + before.length
        endLine := candidate.endLine + before.length } := by
  simp only [Candidate.recordIn, Candidate.moveDown,
    linesBetween_append_right]

/--
Text below changes no more than the end of a block that ran to the last line,
and text above moves the located function down.
-/
theorem extract_surrounded
    (source : String)
    (cursor : Nat)
    (language : String)
    (inside : cursor < (linesOf source.toList).length) :
    (∀ below : String,
      (extract (source ++ "\n" ++ below) cursor language = none ↔
          extract source cursor language = none) ∧
        ∀ record,
          extract source cursor language = some record →
            ∃ longer,
              extract (source ++ "\n" ++ below) cursor language =
                  some longer ∧
                longer.startLine = record.startLine ∧
                longer.name = record.name ∧
                longer.parameters = record.parameters ∧
                longer.returnType = record.returnType ∧
                record.endLine ≤ longer.endLine ∧
                (record.endLine + 1 ≠ (linesOf source.toList).length →
                  longer = record)) ∧
      ∀ (above : String) (record : FunctionRecord),
        extract source cursor language = some record →
          extract (above ++ "\n" ++ source)
              (cursor + (linesOf above.toList).length) language =
            some
              { record with
                startLine :=
                  record.startLine + (linesOf above.toList).length
                endLine :=
                  record.endLine + (linesOf above.toList).length } := by
  simp only [extract_eq_strategyOf_extract]
  constructor
  · intro below
    constructor
    · simp only [Strategy.extract_eq_none_iff, linesOf_toList_append]
      constructor
      · intro noneEncloses candidate encloses
        rcases encloses.exists_longer (linesOf below.toList) with
          ⟨longer, longerEncloses, -⟩
        exact noneEncloses longer longerEncloses
      · intro noneEncloses candidate encloses
        exact noneEncloses _ (encloses.cutOff inside)
    · intro record located
      rcases Strategy.extract_eq_some_iff.mp located with
        ⟨candidate, innermost, rfl⟩
      have bounds := innermost.toStandsIn.bounds
      rcases innermost.exists_longer inside (linesOf below.toList) with
        ⟨longer, longerInnermost, rfl⟩
      refine
        ⟨longer.recordIn
          (linesOf source.toList ++ linesOf below.toList) language,
          ?_, rfl, rfl, rfl, rfl, Nat.min_le_right _ _, ?_⟩
      · rw [Strategy.extract_eq_some_iff, linesOf_toList_append]
        exact ⟨longer, longerInnermost, rfl⟩
      · intro notLast
        have same :
            longer.cutOff (linesOf source.toList).length = longer :=
          Candidate.eq_of_cutOff_endLine_lt
            (Nat.lt_of_le_of_ne bounds.2 notLast)
        rw [same] at bounds ⊢
        rw [Candidate.recordIn, Candidate.recordIn,
          linesBetween_append_left _ _ bounds.2]
  · intro above record located
    rcases Strategy.extract_eq_some_iff.mp located with
      ⟨candidate, innermost, rfl⟩
    rw [Strategy.extract_eq_some_iff, linesOf_toList_append]
    exact
      ⟨_, innermost.moveDown (linesOf above.toList),
        (recordIn_moveDown candidate _ _ language).symm⟩

/-- A function that never closes, with a closing brace below it and two lines
above. -/
theorem extract_surrounded_unclosed :
    (∃ longer,
      extract
          ("function f(a) \x7b\n a" ++ "\n" ++ "\x7d\nfunction g() \x7b") 1
          "javascript" =
        some longer ∧
      longer.startLine = 0 ∧ longer.name = "f" ∧ 1 ≤ longer.endLine) ∧
      extract ("function g() \x7b\n" ++ "\n" ++ "function f(a) \x7b\n a")
          (1 + (linesOf "function g() \x7b\n".toList).length) "javascript" =
        some
          ⟨"f", "function f(a) \x7b\n a", 2, 3, "javascript", ["a"], none⟩ := by
  have located :
      extract "function f(a) \x7b\n a" 1 "javascript" =
        some
          ⟨"f", "function f(a) \x7b\n a", 0, 1, "javascript", ["a"], none⟩ := by
    decide
  have inside : 1 < (linesOf "function f(a) \x7b\n a".toList).length := by
    decide
  have surrounded :=
    extract_surrounded "function f(a) \x7b\n a" 1 "javascript" inside
  constructor
  · rcases (surrounded.1 "\x7d\nfunction g() \x7b").2 _ located with
      ⟨longer, found, sameStart, sameName, -, -, grown, -⟩
    exact ⟨longer, found, sameStart, sameName, grown⟩
  · exact surrounded.2 "function g() \x7b\n" _ located

end TestScribe.Locate

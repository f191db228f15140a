import TestScribe.Proofs.Header.Definition
import TestScribe.Proofs.Locate.Extract
import TestScribe.Proofs.Locate.InsertedLine

/-!
# Blank lines in indented languages

A blank line that is put into a text moves the lines below it down by one.  It
declares nothing, so every candidate comes from one of the text without it.  A
block takes the blank line in if it stands in the block or right behind it, and
a block that ends further up stays as it is.  So exactly the candidates that
held the cursor hold it still, and the innermost of them is the same.
-/

namespace TestScribe.Locate

open TestScribe.Block TestScribe.Header TestScribe.Source
open TestScribe.Text

/-- The text with a line put in before the one at `place`, or behind the last. -/
def withLine
    (source : String)
    (place : Nat)
    (line : Line) :
    String :=
  String.ofList (joinLines ((linesOf source.toList).insertIdx place line))

theorem linesOf_withLine
    (source : String)
    (place : Nat)
    {line : Line}
    (unbroken : '\n' ∉ line) :
    linesOf (withLine source place line).toList =
      (linesOf source.toList).insertIdx place line := by
  rw [withLine, String.toList_ofList]
  apply linesOf_joinLines
  · intro isEmpty
    have shorter :=
      List.sublist_insertIdx (linesOf source.toList) place line
    rw [isEmpty, List.sublist_nil] at shorter
    exact List.splitOn_ne_nil '\n' source.toList shorter
  · intro other member
    rcases List.eq_or_mem_of_mem_insertIdx member with
      isInserted | before
    · rwa [isInserted]
    · exact lineFeed_not_mem_of_mem_linesOf before

/-- Where the line at `row` stands once a line is put in before `place`. -/
def rowAfter
    (place row : Nat) :
    Nat :=
  if place ≤ row then row + 1 else row

variable
    {header : HeaderKind}
    {lines : List Line}
    {inserted : Line}
    {place cursor row start last : Nat}
    {candidate : Candidate}

/-! ## Lines and blocks -/

theorem getElem?_insertIdx_rowAfter
    (lines : List Line)
    (inserted : Line)
    (place row : Nat) :
    (lines.insertIdx place inserted)[rowAfter place row]? =
      lines[row]? := by
  rw [rowAfter]
  split
  · next moved =>
    rw [List.getElem?_insertIdx_of_gt (Nat.lt_succ_of_le moved)]
    rfl
  · next above =>
    exact List.getElem?_insertIdx_of_lt (Nat.lt_of_not_le above)

/-- Every line but the one that was put in was there before. -/
theorem exists_rowAfter_eq
    (other : row ≠ place) :
    ∃ original, rowAfter place original = row := by
  rcases Nat.lt_or_gt_of_ne other with above | below
  · exact ⟨row, if_neg (Nat.not_le_of_lt above)⟩
  · rcases Nat.exists_eq_add_of_lt below with ⟨further, rfl⟩
    exact ⟨place + further, if_pos (Nat.le_add_right _ _)⟩

theorem drop_insertIdx_of_le
    (lines : List Line)
    (inserted : Line)
    (moved : place ≤ row) :
    (lines.insertIdx place inserted).drop (row + 1) = lines.drop row := by
  apply List.ext_getElem?
  intro index
  rw [List.getElem?_drop, List.getElem?_drop,
    List.getElem?_insertIdx_of_gt (by omega)]
  congr 1
  omega

/-- A block by indentation with a blank line put into its text. -/
theorem indentation_end?_insertIdx
    (measured : BlockKind.indentation.end? lines start = some last)
    (blank : isBlank inserted = true)
    (there : place ≤ lines.length) :
    BlockKind.indentation.end? (lines.insertIdx place inserted)
        (rowAfter place start) =
      some (if place ≤ last + 1 then last + 1 else last) := by
  rcases (BlockKind.end?_eq_some_iff _).mp measured with
    ⟨header, present, rfl⟩
  rw [rowAfter]
  split
  · next moved =>
    have stillPresent :
        (lines.insertIdx place inserted)[start + 1]? = some header := by
      rw [List.getElem?_insertIdx_of_gt (Nat.lt_succ_of_le moved),
        ← present]
      rfl
    rw [BlockKind.end?_of_getElem? _ stillPresent,
      drop_insertIdx_of_le lines inserted (Nat.le_add_right_of_le moved),
      if_pos (by omega)]
    simp only [Option.some.injEq]
    omega
  · next above =>
    have below : start < place := Nat.lt_of_not_le above
    have inside :
        place - (start + 1) ≤ (lines.drop (start + 1)).length := by
      rw [List.length_drop]
      exact Nat.sub_le_sub_right there _
    have longer :
        BlockKind.indentation.extent header
            ((lines.drop (start + 1)).insertIdx (place - (start + 1))
              inserted) =
          if place - (start + 1) ≤
              BlockKind.indentation.extent header
                (lines.drop (start + 1)) then
            BlockKind.indentation.extent header
              (lines.drop (start + 1)) + 1
          else
            BlockKind.indentation.extent header
              (lines.drop (start + 1)) :=
      indentExtent_insertIdx header blank inside
    rw [BlockKind.end?_insertIdx _ present below, longer]
    split
    · next takenIn =>
      rw [if_pos (by omega)]
      rfl
    · next beyond => rw [if_neg (by omega)]

/-! ## Candidates -/

namespace Candidate

/-- The candidate once a blank line is put into its text before `place`. -/
def withBlank
    (candidate : Candidate)
    (place : Nat) :
    Candidate where
  signature := candidate.signature
  startLine := rowAfter place candidate.startLine
  endLine :=
    if place ≤ candidate.endLine + 1 then candidate.endLine + 1
    else candidate.endLine

theorem StandsIn.withBlank
    (stands : candidate.StandsIn header .indentation lines)
    (blank : isBlank inserted = true)
    (there : place ≤ lines.length) :
    (candidate.withBlank place).StandsIn header .indentation
      (lines.insertIdx place inserted) where
  declared := by
    simp only [Candidate.withBlank]
    rw [getElem?_insertIdx_rowAfter]
    exact stands.declared
  measured := indentation_end?_insertIdx stands.measured blank there

/-- Each candidate of the longer text comes from one of the text before. -/
theorem StandsIn.exists_withBlank
    (stands :
      candidate.StandsIn header .indentation
        (lines.insertIdx place inserted))
    (undeclared : header.signature? inserted = none)
    (blank : isBlank inserted = true)
    (there : place ≤ lines.length) :
    ∃ original : Candidate,
      original.StandsIn header .indentation lines ∧
        original.withBlank place = candidate := by
  have notInserted : candidate.startLine ≠ place := by
    intro same
    have declared := stands.declared
    rw [same, List.getElem?_insertIdx_self, if_pos there,
      Option.bind_some, undeclared] at declared
    exact nomatch declared
  rcases exists_rowAfter_eq notInserted with ⟨start, startEq⟩
  have declared := stands.declared
  rw [← startEq, getElem?_insertIdx_rowAfter,
    Option.bind_eq_some_iff] at declared
  rcases declared with ⟨line, present, declared⟩
  have originalStands :=
    Candidate.standsIn_of_declared .indentation present declared
  exact
    ⟨_, originalStands,
      (originalStands.withBlank blank there).eq_of_startLine_eq stands
        startEq⟩

/-- The cursor stays in the blocks that it was in, and in no others. -/
theorem withBlank_holds_iff
    (candidate : Candidate)
    (place cursor : Nat) :
    ((candidate.withBlank place).startLine ≤ rowAfter place cursor ∧
        rowAfter place cursor ≤ (candidate.withBlank place).endLine) ↔
      candidate.startLine ≤ cursor ∧ cursor ≤ candidate.endLine := by
  simp only [Candidate.withBlank, rowAfter]
  split_ifs <;> omega

theorem Encloses.withBlank
    (encloses : candidate.Encloses header .indentation lines cursor)
    (blank : isBlank inserted = true)
    (there : place ≤ lines.length) :
    (candidate.withBlank place).Encloses header .indentation
      (lines.insertIdx place inserted) (rowAfter place cursor) := by
  have holds :=
    (candidate.withBlank_holds_iff place cursor).mpr
      ⟨encloses.start_le, encloses.le_last⟩
  exact ⟨encloses.toStandsIn.withBlank blank there, holds.1, holds.2⟩

theorem Encloses.exists_withBlank
    (encloses :
      candidate.Encloses header .indentation
        (lines.insertIdx place inserted) (rowAfter place cursor))
    (undeclared : header.signature? inserted = none)
    (blank : isBlank inserted = true)
    (there : place ≤ lines.length) :
    ∃ original : Candidate,
      original.Encloses header .indentation lines cursor ∧
        original.withBlank place = candidate := by
  rcases encloses.toStandsIn.exists_withBlank undeclared blank there with
    ⟨original, stands, rfl⟩
  have holds :=
    (original.withBlank_holds_iff place cursor).mp
      ⟨encloses.start_le, encloses.le_last⟩
  exact ⟨original, ⟨stands, holds.1, holds.2⟩, rfl⟩

theorem rowAfter_le_rowAfter
    {first second : Nat}
    (place : Nat)
    (ordered : first ≤ second) :
    rowAfter place first ≤ rowAfter place second := by
  simp only [rowAfter]
  split_ifs <;> omega

/-- The innermost candidate stays the innermost. -/
theorem IsInnermost.withBlank
    (innermost : candidate.IsInnermost header .indentation lines cursor)
    (undeclared : header.signature? inserted = none)
    (blank : isBlank inserted = true)
    (there : place ≤ lines.length) :
    (candidate.withBlank place).IsInnermost header .indentation
      (lines.insertIdx place inserted) (rowAfter place cursor) := by
  refine ⟨innermost.toEncloses.withBlank blank there, ?_⟩
  intro other encloses
  rcases encloses.exists_withBlank undeclared blank there with
    ⟨original, originalEncloses, rfl⟩
  exact
    rowAfter_le_rowAfter place
      (innermost.lowest original originalEncloses)

end Candidate

/-! ## Located definitions -/

theorem definition?_of_isBlank
    (blank : isBlank inserted = true) :
    HeaderKind.definition.signature? inserted = none := by
  cases declared : HeaderKind.definition.signature? inserted with
  | none => rfl
  | some signature =>
      rw [isBlank_eq_false_of_definition? declared] at blank
      exact nomatch blank

/--
A blank line, wherever it is put in, changes nothing but positions: the same
definition is located around the same line, or none as before.  It moves down
with its header if the blank line stands above that, and its last line moves
down if the blank line stands no further below than right behind it.
-/
theorem blank_line_moves_definition
    (source : String)
    (cursor : Nat)
    {place : Nat}
    {spaces : Line}
    (there : place ≤ (linesOf source.toList).length)
    (blank : isBlank spaces = true)
    (unbroken : '\n' ∉ spaces) :
    (extract (withLine source place spaces)
          (if cursor < place then cursor else cursor + 1) "python" =
        none ↔
      extract source cursor "python" = none) ∧
      ∀ record,
        extract source cursor "python" = some record →
          ∃ moved,
            extract (withLine source place spaces)
                (if cursor < place then cursor else cursor + 1)
                "python" =
              some moved ∧
            moved.name = record.name ∧
            moved.parameters = record.parameters ∧
            moved.returnType = record.returnType ∧
            moved.startLine =
              (if place ≤ record.startLine then record.startLine + 1
                else record.startLine) ∧
            moved.endLine =
              (if place ≤ record.endLine + 1 then record.endLine + 1
                else record.endLine) := by
  have row :
      (if cursor < place then cursor else cursor + 1) =
        rowAfter place cursor := by
    rw [rowAfter]
    split_ifs <;> omega
  have undeclared := definition?_of_isBlank blank
  simp only [row, extract_eq_strategyOf_extract]
  constructor
  · simp only [Strategy.extract_eq_none_iff,
      linesOf_withLine source place unbroken]
    constructor
    · intro noneEncloses candidate encloses
      exact noneEncloses _ (encloses.withBlank blank there)
    · intro noneEncloses candidate encloses
      rcases encloses.exists_withBlank undeclared blank there with
        ⟨original, originalEncloses, -⟩
      exact noneEncloses original originalEncloses
  · intro record located
    rcases Strategy.extract_eq_some_iff.mp located with
      ⟨candidate, innermost, rfl⟩
    refine
      ⟨(candidate.withBlank place).recordIn
          ((linesOf source.toList).insertIdx place spaces) "python",
        ?_, rfl, rfl, rfl, rfl, rfl⟩
    rw [Strategy.extract_eq_some_iff,
      linesOf_withLine source place unbroken]
    exact ⟨_, innermost.withBlank undeclared blank there, rfl⟩

/-- A tab right behind the last line of a method belongs to it. -/
theorem blank_line_moves_definition_behind :
    ∃ moved,
      extract (withLine "class C:\n  def f(a):\n    a\nx" 3 ['\t']) 2
          "python" =
        some moved ∧
      moved.name = "f" ∧ moved.startLine = 1 ∧ moved.endLine = 3 := by
  have located :
      extract "class C:\n  def f(a):\n    a\nx" 2 "python" =
        some ⟨"f", "  def f(a):\n    a", 1, 2, "python", ["a"], none⟩ := by
    decide
  have there :
      3 ≤ (linesOf "class C:\n  def f(a):\n    a\nx".toList).length := by
    decide
  have blank : isBlank ['\t'] = true := by
    decide
  rcases
    (blank_line_moves_definition "class C:\n  def f(a):\n    a\nx" 2 there
        blank (by decide)).2 _ located with
    ⟨moved, found, sameName, -, -, start, last⟩
  exact ⟨moved, found, sameName, start, last⟩

end TestScribe.Locate

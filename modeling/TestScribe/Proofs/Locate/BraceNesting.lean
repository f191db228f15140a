import TestScribe.Proofs.Locate.Innermost
import TestScribe.Proofs.Locate.Nesting

/-!
# Nested blocks between braces

Where each line changes the number of open braces by at most one, and each
header opens one brace or closes what it opens, blocks between braces are
nested.  At an inner header the outer block is open, so the inner block has to
close before the outer one can.  The braces of the whole text need not be
balanced: a block that never closes ends on the last line, and every block
inside it ends there at the latest.
-/

namespace TestScribe.Locate

open TestScribe.Block TestScribe.Header TestScribe.Source

/-- Each line opens at most one brace more than it closes, or the reverse. -/
def IsGradual
    (lines : List Line) : Prop :=
  ∀ line ∈ lines, -1 ≤ braceDelta line ∧ braceDelta line ≤ 1

/-- Each header opens one brace more than it closes, or closes what it opens. -/
def HeadersOpenOrClose
    (language : String)
    (lines : List Line) : Prop :=
  ∀ line ∈ lines,
    (signatureIn? language line).isSome = true →
      braceDelta line = 1 ∨ ClosesItself line

instance (header : Line) : Decidable (ClosesItself header) :=
  instDecidableAnd

instance (lines : List Line) : Decidable (IsGradual lines) :=
  List.decidableBAll _ lines

instance (language : String) (lines : List Line) :
    Decidable (HeadersOpenOrClose language lines) :=
  List.decidableBAll _ lines

theorem HeadersOpenOrClose.opens_or_closes
    {language : String}
    {lines : List Line}
    (headers : HeadersOpenOrClose language lines)
    {index : Nat}
    {line : Line}
    {signature : Signature}
    (present : lines[index]? = some line)
    (declared : signatureIn? language line = some signature) :
    braceDelta line = 1 ∨ ClosesItself line :=
  headers line (List.mem_of_getElem? present)
    (Option.isSome_of_eq_some declared)

section Measured

variable
    {lines : List Line}
    {outer inner outerEnd innerEnd : Nat}
    {outerLine innerLine : Line}

/-- The lines below an outer header, with an inner header among them. -/
theorem drop_eq_append_cons_drop
    (after : outer < inner)
    (present : lines[inner]? = some innerLine) :
    lines.drop (outer + 1) =
      (lines.drop (outer + 1)).take (inner - (outer + 1)) ++
        innerLine :: lines.drop (inner + 1) := by
  rcases List.getElem?_eq_some_iff.mp present with ⟨inside, rfl⟩
  have innerDropped :
      (lines.drop (outer + 1)).drop (inner - (outer + 1)) =
        lines[inner] :: lines.drop (inner + 1) := by
    rw [List.drop_drop, Nat.add_sub_cancel' after,
      List.drop_eq_getElem_cons inside]
  rw [← innerDropped, List.take_append_drop]

/-- A block that begins in another whose header opens a brace ends in it. -/
theorem braces_end?_le_of_le
    (gradual : IsGradual lines)
    (outerMeasured : BlockKind.braces.end? lines outer = some outerEnd)
    (innerMeasured : BlockKind.braces.end? lines inner = some innerEnd)
    (outerPresent : lines[outer]? = some outerLine)
    (innerPresent : lines[inner]? = some innerLine)
    (outerHeader : braceDelta outerLine = 1 ∨ ClosesItself outerLine)
    (innerHeader : braceDelta innerLine = 1 ∨ ClosesItself innerLine)
    (after : outer < inner)
    (inside : inner ≤ outerEnd) :
    innerEnd ≤ outerEnd := by
  rw [BlockKind.end?_of_getElem? _ outerPresent,
    Option.some.injEq] at outerMeasured
  rw [BlockKind.end?_of_getElem? _ innerPresent,
    Option.some.injEq] at innerMeasured
  simp only [BlockKind.extent] at outerMeasured innerMeasured
  rcases innerHeader with innerOpens | innerCloses
  · rcases outerHeader with outerOpens | outerCloses
    · have outerStays : ¬ ClosesItself outerLine := by
        rintro ⟨unchanged, -⟩
        rw [outerOpens] at unchanged
        exact nomatch unchanged
      have innerStays : ¬ ClosesItself innerLine := by
        rintro ⟨unchanged, -⟩
        rw [innerOpens] at unchanged
        exact nomatch unchanged
      have innerInside : inner < lines.length :=
        (List.getElem?_eq_some_iff.mp innerPresent).1
      rw [braceExtent_of_not_closesItself outerStays, outerOpens,
        drop_eq_append_cons_drop after innerPresent] at outerMeasured
      rw [braceExtent_of_not_closesItself innerStays,
        innerOpens] at innerMeasured
      have betweenLength :
          ((lines.drop (outer + 1)).take
            (inner - (outer + 1))).length = inner - (outer + 1) := by
        rw [List.length_take, List.length_drop]
        omega
      have descends :
          ∀ line ∈
              (lines.drop (outer + 1)).take (inner - (outer + 1)) ++
                innerLine :: lines.drop (inner + 1),
            -1 ≤ braceDelta line := by
        intro line member
        rw [← drop_eq_append_cons_drop after innerPresent] at member
        exact (gradual line (List.mem_of_mem_drop member)).1
      have nested :=
        linesToBalance_nested descends Int.one_pos innerOpens (by omega)
      omega
    · rw [braceExtent_of_closesItself outerCloses] at outerMeasured
      omega
  · rw [braceExtent_of_closesItself innerCloses] at innerMeasured
    omega

end Measured

/-- The blocks of headers between braces are nested. -/
theorem brace_endLine_le_of_le
    {language : String}
    {lines : List Line}
    {outer inner : Candidate}
    (gradual : IsGradual lines)
    (headers : HeadersOpenOrClose language lines)
    (outerStands :
      outer.StandsIn (strategyOf language).header .braces lines)
    (innerStands :
      inner.StandsIn (strategyOf language).header .braces lines)
    (after : outer.startLine < inner.startLine)
    (inside : inner.startLine ≤ outer.endLine) :
    inner.endLine ≤ outer.endLine := by
  have outerDeclared := outerStands.declared
  have innerDeclared := innerStands.declared
  rw [signature?_strategyOf, Option.bind_eq_some_iff]
    at outerDeclared innerDeclared
  rcases outerDeclared with ⟨outerLine, outerPresent, outerDeclared⟩
  rcases innerDeclared with ⟨innerLine, innerPresent, innerDeclared⟩
  exact
    braces_end?_le_of_le gradual outerStands.measured
      innerStands.measured outerPresent innerPresent
      (headers.opens_or_closes outerPresent outerDeclared)
      (headers.opens_or_closes innerPresent innerDeclared)
      after inside

/-- Every language but the indented one measures blocks between braces. -/
theorem block_strategyOf_of_ne
    {language : String}
    (notIndented : language ≠ "python") :
    (strategyOf language).block = .braces := by
  rw [strategyOf, if_neg notIndented]
  split <;> rfl

/--
In a text that changes its number of open braces gradually, the blocks of
headers are nested, and the located function lies in the block of every header
that holds the cursor.
-/
theorem brace_blocks_nested
    (source language : String)
    (notIndented : language ≠ "python")
    (gradual : IsGradual (linesOf source.toList))
    (headers : HeadersOpenOrClose language (linesOf source.toList)) :
    (∀ (outer inner : Nat) (outerLine innerLine : Line)
        (outerSignature innerSignature : Signature),
      outer < inner →
        (linesOf source.toList)[outer]? = some outerLine →
          signatureIn? language outerLine = some outerSignature →
            (linesOf source.toList)[inner]? = some innerLine →
              signatureIn? language innerLine = some innerSignature →
                ∃ outerEnd innerEnd,
                  BlockKind.braces.end? (linesOf source.toList) outer =
                      some outerEnd ∧
                    BlockKind.braces.end? (linesOf source.toList) inner =
                        some innerEnd ∧
                      (inner ≤ outerEnd → innerEnd ≤ outerEnd)) ∧
      ∀ (cursor : Nat) (record : FunctionRecord),
        extract source cursor language = some record →
          ∀ (start last : Nat) (line : Line) (signature : Signature),
            (linesOf source.toList)[start]? = some line →
              signatureIn? language line = some signature →
                BlockKind.braces.end? (linesOf source.toList) start =
                    some last →
                  start ≤ cursor →
                    cursor ≤ last →
                      start ≤ record.startLine ∧
                        record.endLine ≤ last := by
  constructor
  · intro outer inner outerLine innerLine outerSignature innerSignature
      after outerPresent outerDeclared innerPresent innerDeclared
    have outerInside := (List.getElem?_eq_some_iff.mp outerPresent).1
    have innerInside := (List.getElem?_eq_some_iff.mp innerPresent).1
    rcases BlockKind.braces.exists_end?_of_lt outerInside with
      ⟨outerEnd, outerMeasured⟩
    rcases BlockKind.braces.exists_end?_of_lt innerInside with
      ⟨innerEnd, innerMeasured⟩
    exact
      ⟨outerEnd, innerEnd, outerMeasured, innerMeasured,
        braces_end?_le_of_le gradual outerMeasured innerMeasured
          outerPresent innerPresent
          (headers.opens_or_closes outerPresent outerDeclared)
          (headers.opens_or_closes innerPresent innerDeclared)
          after⟩
  · intro cursor record located start last line signature
      present declared measured start_le le_last
    rw [extract_eq_strategyOf_extract] at located
    rcases Strategy.extract_eq_some_iff.mp located with
      ⟨candidate, innermost, rfl⟩
    rw [block_strategyOf_of_ne notIndented] at innermost
    have encloses :
        (Candidate.mk signature start last).Encloses
          (strategyOf language).header .braces
          (linesOf source.toList) cursor := by
      refine ⟨⟨?_, measured⟩, start_le, le_last⟩
      rw [signature?_strategyOf, present]
      exact declared
    exact
      innermost.inside_of_nested
        (fun _ _ => brace_endLine_le_of_le gradual headers) encloses

/-- A function in another that never closes, below a brace too many. -/
theorem brace_blocks_nested_unclosed :
    (∃ outerEnd innerEnd,
      BlockKind.braces.end?
          (linesOf
            "\x7d\nfunction f(a) \x7b\n function g() \x7b\n \x7d\n a".toList)
          1 =
        some outerEnd ∧
      BlockKind.braces.end?
          (linesOf
            "\x7d\nfunction f(a) \x7b\n function g() \x7b\n \x7d\n a".toList)
          2 =
        some innerEnd ∧
      (2 ≤ outerEnd → innerEnd ≤ outerEnd)) ∧
      ∃ record,
        extract
            "\x7d\nfunction f(a) \x7b\n function g() \x7b\n \x7d\n a" 3
            "javascript" =
          some record ∧
        BlockKind.braces.end?
            (linesOf
              "\x7d\nfunction f(a) \x7b\n function g() \x7b\n \x7d\n a".toList)
            1 =
          some 4 ∧
        1 ≤ record.startLine ∧ record.endLine ≤ 4 := by
  have located :
      extract
          "\x7d\nfunction f(a) \x7b\n function g() \x7b\n \x7d\n a" 3
          "javascript" =
        some
          ⟨"g", " function g() \x7b\n \x7d", 2, 3, "javascript", [], none⟩ := by
    decide
  have measured :
      BlockKind.braces.end?
          (linesOf
            "\x7d\nfunction f(a) \x7b\n function g() \x7b\n \x7d\n a".toList)
          1 =
        some 4 := by
    decide
  have nested :=
    brace_blocks_nested
      "\x7d\nfunction f(a) \x7b\n function g() \x7b\n \x7d\n a"
      "javascript" (by decide) (by decide) (by decide)
  constructor
  · exact
      nested.1 1 2 "function f(a) \x7b".toList " function g() \x7b".toList
        ⟨"f", ["a"], none⟩ ⟨"g", [], none⟩ (by decide) (by decide)
        (by decide) (by decide) (by decide)
  · exact
      ⟨_, located, measured,
        nested.2 3 _ located 1 4 "function f(a) \x7b".toList
          ⟨"f", ["a"], none⟩ (by decide) (by decide) measured
          (by decide) (by decide)⟩

end TestScribe.Locate

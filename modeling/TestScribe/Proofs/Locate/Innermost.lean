import TestScribe.Proofs.Locate.BlockEnd
import TestScribe.Proofs.Locate.Extract

/-!
# Locating, declared

This is the meaning of locating a function, without scan and without measuring
loops.  A header holds the cursor when it stands at or above it and its block
reaches it.  The located function is that of the lowest header that holds the
cursor, with the lines of its block, and there is a located function exactly
when some header holds the cursor.
-/

namespace TestScribe.Locate

open TestScribe.Header TestScribe.Source

/-- The signature that a line declares in a language. -/
def signatureIn?
    (language : String) :
    Line → Option Signature :=
  if language = "python" then
    definition?
  else if language = "java" then
    method?
  else
    declaration?

/-- `last` is the last line of the block at `start` in a language. -/
def IsBlockEnd
    (language : String)
    (lines : List Line)
    (start last : Nat) : Prop :=
  if language = "python" then
    IsIndentEnd lines start last
  else
    IsBraceEnd lines start last

/-- The line at `start` is a header and its block holds the cursor. -/
structure HoldsCursor
    (language : String)
    (lines : List Line)
    (cursor start : Nat) : Prop where
  start_le : start ≤ cursor
  declared :
    ∃ line signature,
      lines[start]? = some line ∧
        signatureIn? language line = some signature
  reaches :
    ∃ last,
      IsBlockEnd language lines start last ∧ cursor ≤ last

/-- The record is that of the lowest header whose block holds the cursor. -/
structure IsInnermostRecord
    (source : String)
    (cursor : Nat)
    (language : String)
    (record : FunctionRecord) : Prop where
  greatest :
    IsGreatest
      { start |
        HoldsCursor language (linesOf source.toList) cursor start }
      record.startLine
  blockEnd :
    IsBlockEnd language (linesOf source.toList)
      record.startLine record.endLine
  declared :
    ∃ line,
      (linesOf source.toList)[record.startLine]? = some line ∧
        signatureIn? language line =
          some ⟨record.name, record.parameters, record.returnType⟩
  code :
    record.code =
      String.ofList
        (joinLines
          (linesBetween (linesOf source.toList)
            record.startLine record.endLine))
  language : record.language = language

/-! ## The declared notions are those of the strategies -/

theorem signature?_strategyOf
    (language : String) :
    (strategyOf language).header.signature? =
      signatureIn? language := by
  rw [strategyOf, signatureIn?]
  split
  · rfl
  · split <;> rfl

/-- The declared end of a block is the measured one. -/
theorem isBlockEnd_iff
    {language : String}
    {lines : List Line}
    {start last : Nat} :
    IsBlockEnd language lines start last ↔
      (strategyOf language).block.end? lines start = some last := by
  rw [IsBlockEnd, strategyOf]
  split
  · exact isIndentEnd_iff
  · split <;> exact isBraceEnd_iff

/-- A candidate stands where its header is declared and its block ends. -/
theorem standsIn_strategyOf_iff
    {language : String}
    {lines : List Line}
    {candidate : Candidate} :
    candidate.StandsIn (strategyOf language).header
        (strategyOf language).block lines ↔
      (∃ line,
        lines[candidate.startLine]? = some line ∧
          signatureIn? language line = some candidate.signature) ∧
        IsBlockEnd language lines
          candidate.startLine candidate.endLine := by
  rw [isBlockEnd_iff, ← signature?_strategyOf, ← Option.bind_eq_some_iff]
  exact
    ⟨fun stands => ⟨stands.declared, stands.measured⟩,
      fun both => ⟨both.1, both.2⟩⟩

/-- A header holds the cursor when a candidate there encloses it. -/
theorem holdsCursor_iff
    {language : String}
    {lines : List Line}
    {cursor start : Nat} :
    HoldsCursor language lines cursor start ↔
      ∃ candidate : Candidate,
        candidate.Encloses (strategyOf language).header
            (strategyOf language).block lines cursor ∧
          candidate.startLine = start := by
  constructor
  · rintro ⟨start_le, ⟨line, signature, present, declared⟩,
      last, isEnd, le_last⟩
    refine ⟨⟨signature, start, last⟩, ⟨?_, start_le, le_last⟩, rfl⟩
    exact standsIn_strategyOf_iff.mpr ⟨⟨line, present, declared⟩, isEnd⟩
  · rintro ⟨candidate, encloses, rfl⟩
    rcases standsIn_strategyOf_iff.mp encloses.toStandsIn with
      ⟨⟨line, present, declared⟩, isEnd⟩
    exact
      ⟨encloses.start_le, ⟨line, _, present, declared⟩,
        _, isEnd, encloses.le_last⟩

/-- The innermost candidate begins at the greatest header that holds the cursor. -/
theorem isInnermost_strategyOf_iff
    {language : String}
    {lines : List Line}
    {cursor : Nat}
    {candidate : Candidate}
    (stands :
      candidate.StandsIn (strategyOf language).header
        (strategyOf language).block lines) :
    candidate.IsInnermost (strategyOf language).header
        (strategyOf language).block lines cursor ↔
      IsGreatest { start | HoldsCursor language lines cursor start }
        candidate.startLine := by
  constructor
  · intro innermost
    refine
      ⟨holdsCursor_iff.mpr ⟨candidate, innermost.toEncloses, rfl⟩, ?_⟩
    intro start holds
    rcases holdsCursor_iff.mp holds with ⟨other, encloses, rfl⟩
    exact innermost.lowest other encloses
  · rintro ⟨holds, greatest⟩
    rcases holdsCursor_iff.mp holds with ⟨same, encloses, sameStart⟩
    have isSame : same = candidate :=
      encloses.toStandsIn.eq_of_startLine_eq stands sameStart
    subst isSame
    refine ⟨encloses, ?_⟩
    intro other otherEncloses
    exact greatest (holdsCursor_iff.mpr ⟨other, otherEncloses, rfl⟩)

/-- Exactly the innermost record is the record of an innermost candidate. -/
theorem isInnermostRecord_iff
    {source : String}
    {cursor : Nat}
    {language : String}
    {record : FunctionRecord} :
    IsInnermostRecord source cursor language record ↔
      ∃ candidate : Candidate,
        candidate.IsInnermost (strategyOf language).header
            (strategyOf language).block
            (linesOf source.toList) cursor ∧
          record =
            candidate.recordIn (linesOf source.toList) language := by
  constructor
  · intro isRecord
    let candidate : Candidate :=
      ⟨⟨record.name, record.parameters, record.returnType⟩,
        record.startLine, record.endLine⟩
    have stands :
        candidate.StandsIn (strategyOf language).header
          (strategyOf language).block (linesOf source.toList) :=
      standsIn_strategyOf_iff.mpr ⟨isRecord.declared, isRecord.blockEnd⟩
    refine
      ⟨candidate,
        (isInnermost_strategyOf_iff stands).mpr isRecord.greatest, ?_⟩
    rw [FunctionRecord.mk.injEq]
    exact
      ⟨rfl, isRecord.code, rfl, rfl, isRecord.language, rfl, rfl⟩
  · rintro ⟨candidate, innermost, rfl⟩
    have stands := innermost.toStandsIn
    rcases standsIn_strategyOf_iff.mp stands with ⟨declared, isEnd⟩
    exact
      { greatest := (isInnermost_strategyOf_iff stands).mp innermost
        blockEnd := isEnd
        declared := declared
        code := rfl
        language := rfl }

/--
Locating finds a function exactly when some header holds the cursor, and the
record it answers is exactly that of the lowest such header.
-/
theorem extract_exact
    (source : String)
    (cursor : Nat)
    (language : String) :
    ((∃ record, extract source cursor language = some record) ↔
      ∃ start,
        HoldsCursor language (linesOf source.toList) cursor start) ∧
      ∀ record,
        extract source cursor language = some record ↔
          IsInnermostRecord source cursor language record := by
  rw [extract_eq_strategyOf_extract]
  constructor
  · constructor
    · rintro ⟨record, located⟩
      rcases Strategy.extract_eq_some_iff.mp located with
        ⟨candidate, innermost, -⟩
      exact
        ⟨candidate.startLine,
          holdsCursor_iff.mpr ⟨candidate, innermost.toEncloses, rfl⟩⟩
    · rintro ⟨start, holds⟩
      rcases holdsCursor_iff.mp holds with ⟨candidate, encloses, -⟩
      refine Option.ne_none_iff_exists'.mp fun nothing => ?_
      exact
        Strategy.extract_eq_none_iff.mp nothing candidate encloses
  · intro record
    rw [Strategy.extract_eq_some_iff, isInnermostRecord_iff]

end TestScribe.Locate

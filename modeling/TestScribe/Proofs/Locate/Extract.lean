import TestScribe.Locate.Registry
import TestScribe.Proofs.Locate.Enclosing
import TestScribe.Proofs.Source.Lines

/-!
# From the candidate to the record

A candidate that stands in a text always has a record, so locating a function
succeeds exactly when some candidate encloses the cursor, and the record is
that of the innermost one.  The built-in registry sends `python` and `java` to
strategies of their own and every other tag to the one for braces.
-/

namespace TestScribe.Locate

open TestScribe.Source

/-! ## Records of candidates -/

/-- The record of a candidate, with the lines from its first to its last. -/
def Candidate.recordIn
    (candidate : Candidate)
    (lines : List Line)
    (language : String) :
    FunctionRecord where
  name := candidate.signature.name
  code :=
    String.ofList
      (joinLines
        (linesBetween lines candidate.startLine candidate.endLine))
  startLine := candidate.startLine
  endLine := candidate.endLine
  language := language
  parameters := candidate.signature.parameters
  returnType := candidate.signature.returnType

/-- A candidate that stands in a text has its record there. -/
theorem Candidate.StandsIn.record?_eq
    {candidate : Candidate}
    {header : HeaderKind}
    {block : BlockKind}
    {lines : List Line}
    (stands : candidate.StandsIn header block lines)
    (language : String) :
    candidate.record? lines language =
      some (candidate.recordIn lines language) := by
  rcases stands.bounds with ⟨ordered, inside⟩
  rw [Candidate.record?, excerpt?_of_lt ordered inside]
  rfl

/-! ## Strategies -/

section Strategy

variable
    {strategy : Strategy}
    {source : String}
    {cursor : Nat}
    {language : String}

/-- A strategy answers with the record of the innermost candidate. -/
theorem Strategy.extract_eq_some_iff
    {record : FunctionRecord} :
    strategy.extract source cursor language = some record ↔
      ∃ candidate : Candidate,
        candidate.IsInnermost strategy.header strategy.block
            (linesOf source.toList) cursor ∧
          record =
            candidate.recordIn (linesOf source.toList) language := by
  simp only [Strategy.extract, Option.bind_eq_some_iff,
    enclosing?_eq_some_iff]
  constructor
  · rintro ⟨candidate, innermost, isRecord⟩
    rw [innermost.toStandsIn.record?_eq, Option.some.injEq] at isRecord
    exact ⟨candidate, innermost, isRecord.symm⟩
  · rintro ⟨candidate, innermost, rfl⟩
    exact ⟨candidate, innermost, innermost.toStandsIn.record?_eq language⟩

/-- A strategy answers nothing exactly when no candidate encloses the cursor. -/
theorem Strategy.extract_eq_none_iff :
    strategy.extract source cursor language = none ↔
      ∀ candidate : Candidate,
        ¬ candidate.Encloses strategy.header strategy.block
          (linesOf source.toList) cursor := by
  rw [← enclosing?_eq_none_iff, Strategy.extract,
    Option.bind_eq_none_iff]
  constructor
  · intro noRecord
    cases found :
        enclosing? strategy.header strategy.block
          (linesOf source.toList) cursor with
    | none => rfl
    | some candidate =>
        have stands :=
          (isInnermost_of_enclosing?_eq_some found).toStandsIn
        have absent := noRecord candidate found
        rw [stands.record?_eq] at absent
        exact nomatch absent
  · intro nothing candidate found
    rw [nothing] at found
    exact nomatch found

end Strategy

/-! ## The built-in registry -/

/-- The strategy for each language tag. -/
def strategyOf
    (language : String) :
    Strategy :=
  if language = "python" then
    .indentation
  else if language = "java" then
    .accessModifier
  else
    .curlyFunction

theorem entries_builtin :
    Registry.builtin.entries =
      [("typescript", Strategy.curlyFunction.extractor),
        ("javascript", Strategy.curlyFunction.extractor),
        ("python", Strategy.indentation.extractor),
        ("java", Strategy.accessModifier.extractor)] := by
  rfl

theorem fallback_builtin :
    Registry.builtin.fallback = Strategy.curlyFunction.extractor := by
  rfl

/-- The built-in registry sends every tag to its strategy. -/
theorem resolve_builtin
    (language : String) :
    Registry.builtin.resolve language =
      (strategyOf language).extractor := by
  rw [Registry.resolve, entries_builtin, fallback_builtin, strategyOf]
  by_cases isPython : language = "python"
  · subst isPython
    rfl
  · by_cases isJava : language = "java"
    · subst isJava
      rfl
    · rw [if_neg isPython, if_neg isJava]
      rw [List.lookup_cons, List.lookup_cons, List.lookup_cons,
        List.lookup_cons, List.lookup_nil,
        beq_eq_false_iff_ne.mpr isPython,
        beq_eq_false_iff_ne.mpr isJava]
      split
      · rfl
      · split <;> rfl

/-- Locating answers as the strategy of the language tag does. -/
theorem extract_eq_strategyOf_extract
    (source : String)
    (cursor : Nat)
    (language : String) :
    extract source cursor language =
      (strategyOf language).extract source cursor language := by
  rw [extract, Registry.extract, resolve_builtin, Strategy.extractor]

end TestScribe.Locate

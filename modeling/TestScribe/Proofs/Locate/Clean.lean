import TestScribe.Proofs.Header.Signature
import TestScribe.Proofs.Locate.Positions

/-!
# Clean records

Locating a function never goes wrong, and whatever it finds is clean: the cursor
stands on one of the function's lines, which are all in the text, and the name,
the parameters and the return type are texts that a caller can use as they are.
-/

namespace TestScribe.Locate

open TestScribe.Header
open TestScribe.Source

/-- A record of a function around the cursor in a text with so many lines, located
for a language tag. -/
structure FunctionRecord.IsClean
    (record : FunctionRecord)
    (lineCount cursor : Nat)
    (language : String) : Prop where
  startLine_le : record.startLine ≤ cursor
  le_endLine : cursor ≤ record.endLine
  endLine_lt : record.endLine < lineCount
  lineFeeds :
    record.code.toList.count '\n' = record.endLine - record.startLine
  isName : IsName record.name.toList
  notControl :
    language ≠ "python" →
      language ≠ "java" → record.name ∉ controlKeywords
  areEntries :
    ∀ parameter ∈ record.parameters,
      IsEntry parameter.toList ∧
        ')' ∉ parameter.toList ∧ '\n' ∉ parameter.toList
  typed :
    language = "java" →
      ∃ type,
        record.returnType = some (String.ofList type) ∧
          IsVisibleType type
  untyped : language ≠ "java" → record.returnType = none

/-- The excerpt from one line of a text to another holds a line feed between
neighbouring lines. -/
theorem count_lineFeed_linesBetween
    (text : List Char)
    {first last : Nat}
    (ordered : first ≤ last)
    (inside : last < (linesOf text).length) :
    (joinLines (linesBetween (linesOf text) first last)).count '\n' =
      last - first := by
  have size := length_linesBetween first inside
  have nonempty : linesBetween (linesOf text) first last ≠ [] := by
    rw [← List.length_pos_iff, size]
    omega
  have counted := count_lineFeed_joinLines nonempty fun line member =>
    lineFeed_not_mem_of_mem_linesOf
      (List.mem_of_mem_drop (List.mem_of_mem_take member))
  omega

/-- A header's signature is cut out of its line. -/
theorem isCutFrom_of_signature?
    {header : HeaderKind}
    {line : Line}
    {signature : Signature}
    (declared : header.signature? line = some signature) :
    IsCutFrom line signature := by
  cases header with
  | declaration => exact (isCutFrom_of_declaration? declared).1
  | definition => exact (isCutFrom_of_definition? declared).1
  | method => exact (isMethodOf_of_method? declared).toIsCutFrom

/-- The strategy for a tag finds no control keywords, except for the tags that have
strategies of their own. -/
theorem name_notControl
    {language : String}
    {line : Line}
    {signature : Signature}
    (declared :
      (strategyOf language).header.signature? line = some signature)
    (notPython : language ≠ "python")
    (notJava : language ≠ "java") :
    signature.name ∉ controlKeywords := by
  rw [strategyOf, if_neg notPython, if_neg notJava] at declared
  exact (isCutFrom_of_declaration? declared).2.1

theorem returnType_of_ne_java
    {language : String}
    {line : Line}
    {signature : Signature}
    (declared :
      (strategyOf language).header.signature? line = some signature)
    (notJava : language ≠ "java") :
    signature.returnType = none := by
  rw [strategyOf, if_neg notJava] at declared
  split at declared
  · exact (isCutFrom_of_definition? declared).2
  · exact (isCutFrom_of_declaration? declared).2.2

theorem isClean_of_extract
    {source : String}
    {cursor : Nat}
    {language : String}
    {record : FunctionRecord}
    (located : extract source cursor language = some record) :
    record.IsClean (linesOf source.toList).length cursor language := by
  rw [extract_eq_strategyOf_extract] at located
  rcases Strategy.extract_eq_some_iff.mp located with
    ⟨candidate, innermost, rfl⟩
  rcases innermost.toStandsIn.bounds with ⟨ordered, inside⟩
  rcases Option.bind_eq_some_iff.mp innermost.declared with
    ⟨line, present, declared⟩
  have isCut := isCutFrom_of_signature? declared
  have unbroken : '\n' ∉ line :=
    lineFeed_not_mem_of_mem_linesOf (List.mem_of_getElem? present)
  exact
    { startLine_le := innermost.start_le
      le_endLine := innermost.le_last
      endLine_lt := inside
      lineFeeds := by
        rw [Candidate.recordIn, String.toList_ofList]
        exact count_lineFeed_linesBetween source.toList ordered inside
      isName := isCut.isName
      notControl := name_notControl declared
      areEntries := isCut.parameters unbroken
      typed := by
        rintro rfl
        exact (isMethodOf_of_method? declared).typed
      untyped := returnType_of_ne_java declared }

/--
Locating a function never goes wrong: the search by positions, with numbers that
can count the characters of the text, finds every line and every run of lines that
it looks for, and answers the same.  A cursor below the last line is in no
function.  A record that is found is clean and has the tag it was located for.
-/
theorem extract_clean
    (source : String)
    (cursor : Nat)
    (language : String) :
    (∀ limit,
      source.length < limit →
        extractByPositions limit source cursor language =
          .ok (extract source cursor language)) ∧
      ((linesOf source.toList).length ≤ cursor →
        extract source cursor language = none) ∧
      ∀ record,
        extract source cursor language = some record →
          record.language = language ∧
            record.IsClean (linesOf source.toList).length cursor
              language := by
  refine ⟨?positions, ?below, ?record⟩
  case positions =>
    intro limit short
    exact extractByPositions_eq_ok short cursor language
  case below =>
    intro past
    rw [Option.eq_none_iff_forall_ne_some]
    intro record located
    have clean := isClean_of_extract located
    have inside :=
      Nat.lt_of_le_of_lt clean.le_endLine clean.endLine_lt
    exact absurd past (Nat.not_le_of_lt inside)
  case record =>
    intro record located
    refine ⟨?_, isClean_of_extract located⟩
    rw [extract_eq_strategyOf_extract] at located
    rcases Strategy.extract_eq_some_iff.mp located with
      ⟨candidate, -, rfl⟩
    rfl

/-- A method without a type, in a text with a wide space and a carriage return. -/
theorem extract_clean_untyped :
    let source :=
      "class A \x7b\r\n public A( int a ,\u3000b,, ) \x7b\n \x7d\n\x7d"
    ∃ record,
      extract source 2 "java" = some record ∧
        extractByPositions 100 source 2 "java" = .ok (some record) ∧
          record.IsClean 4 2 "java" ∧
            record.parameters = ["int a", "b"] ∧
              extract source 4 "java" = none := by
  intro source
  have located :
      extract source 2 "java" =
        some
          ⟨"A", " public A( int a ,\u3000b,, ) \x7b\n \x7d", 1, 2, "java",
            ["int a", "b"], some "void"⟩ := by
    decide
  rcases extract_clean source 2 "java" with ⟨positions, -, clean⟩
  rcases extract_clean source 4 "java" with ⟨-, below, -⟩
  have lineCount : (linesOf source.toList).length = 4 := by
    decide
  rw [lineCount] at clean below
  refine
    ⟨_, located, ?_, (clean _ located).2, rfl, below (Nat.le_refl 4)⟩
  rw [positions 100 (by decide), located]

end TestScribe.Locate

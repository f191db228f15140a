import TestScribe.Header.Definition
import TestScribe.Proofs.Header.Grammar

/-!
# The grammar of definitions

A definition is the keyword `def`, a name and a parameter list.  Its reader
succeeds exactly where such a text begins, and what it finds there is determined
by the position: the white space behind the keyword holds no character of the
name, and the name none of the parenthesis.  So a text declares its leftmost
definition, and the keyword hides nothing where it is not followed by one.
-/

namespace TestScribe.Header

open TestScribe.Source Grammar

namespace Grammar

/-- A definition with this name and these raw parameters. -/
def definition
    (name raw : List Char) :
    Language Char :=
  keyword "def" * (word name * (spaces * parameterList raw))

end Grammar

/-- A definition begins at this position. -/
def DefinesAt
    (text : List Char)
    (position : Nat)
    (name raw : List Char) : Prop :=
  Begins (definition name raw) (text.drop position)

/-- A definition begins at this position, and none begins before it. -/
structure IsLeftmostDefinition
    (text : List Char)
    (position : Nat)
    (name raw : List Char) : Prop where
  defines : DefinesAt text position name raw
  leftmost :
    ∀ earlier otherName otherRaw,
      DefinesAt text earlier otherName otherRaw → position ≤ earlier

/-! ## The reader -/

section Reader

variable
    {text name raw : List Char}
    {signature : Signature}

theorem begins_definition_iff :
    Begins (definition name raw) text ↔
      ∃ behind rest,
        afterKeyword? "def" text = some behind ∧
          namedParameters? behind = some ((name, raw), rest) := by
  have nameVisible :
      StartsWith Visible (word name * (spaces * parameterList raw)) :=
    (startsWith_word
      (fun _ => Text.isWhitespace_eq_false_of_isWordCharacter) name).mul _
  simp only [definition, begins_keyword_mul_iff nameVisible,
    begins_heading_iff, exists_and_left]

/-- The reader finds the signature of a definition that begins the text. -/
theorem definitionForm?_eq_some_iff :
    definitionForm? text = some signature ↔
      ∃ written : List Char × List Char,
        Begins (definition written.1 written.2) text ∧
          Signature.ofRaw written.1 written.2 = signature := by
  simp only [definitionForm?, Option.bind_eq_bind,
    Option.bind_eq_some_iff, Prod.exists, begins_definition_iff]
  constructor
  · rintro ⟨behind, keywordRead, name, raw, rest, headingRead, found⟩
    exact
      ⟨name, raw, ⟨behind, rest, keywordRead, headingRead⟩,
        Option.some.inj found⟩
  · rintro ⟨name, raw, ⟨behind, rest, keywordRead, headingRead⟩, rfl⟩
    exact ⟨behind, keywordRead, name, raw, rest, headingRead, rfl⟩

/-- The position determines the name and the raw parameters. -/
theorem DefinesAt.unique
    {position : Nat}
    {otherName otherRaw : List Char}
    (defines : DefinesAt text position name raw)
    (otherDefines : DefinesAt text position otherName otherRaw) :
    name = otherName ∧ raw = otherRaw := by
  rcases begins_definition_iff.mp defines with
    ⟨behind, rest, keywordRead, headingRead⟩
  rcases begins_definition_iff.mp otherDefines with
    ⟨otherBehind, otherRest, otherKeywordRead, otherHeadingRead⟩
  rw [keywordRead, Option.some.injEq] at otherKeywordRead
  subst otherKeywordRead
  rw [headingRead, Option.some.injEq, Prod.mk.injEq, Prod.mk.injEq]
    at otherHeadingRead
  exact otherHeadingRead.1

theorem definition?_eq_some_iff :
    definition? text = some signature ↔
      ∃ position name raw,
        IsLeftmostDefinition text position name raw ∧
          signature =
            ⟨String.ofList name, splitParameters (String.ofList raw),
              none⟩ := by
  have reads :
      ∀ text signature,
        definitionForm? text = some signature ↔
          ∃ written : List Char × List Char,
            Begins (definition written.1 written.2) text ∧
              Signature.ofRaw written.1 written.2 = signature :=
    fun _ _ => definitionForm?_eq_some_iff
  rw [definition?, leftmost?_eq_some_iff_begins reads]
  constructor
  · rintro ⟨position, ⟨name, raw⟩, defines, rfl, leftmost⟩
    refine ⟨position, name, raw, ⟨defines, ?_⟩, rfl⟩
    intro earlier otherName otherRaw
    exact leftmost earlier (otherName, otherRaw)
  · rintro ⟨position, name, raw, isLeftmost, rfl⟩
    refine ⟨position, (name, raw), isLeftmost.defines, rfl, ?_⟩
    intro earlier other
    exact isLeftmost.leftmost earlier other.1 other.2

/-- Where a definition begins, there is a leftmost one. -/
theorem DefinesAt.exists_isLeftmostDefinition
    {position : Nat}
    (defines : DefinesAt text position name raw) :
    ∃ first firstName firstRaw,
      IsLeftmostDefinition text first firstName firstRaw := by
  rcases
    exists_leftmost_of_begins
      (fun written : List Char × List Char =>
        definition written.1 written.2)
      (name, raw) defines with
    ⟨first, ⟨firstName, firstRaw⟩, firstDefines, leftmost⟩
  refine ⟨first, firstName, firstRaw, firstDefines, ?_⟩
  intro earlier otherName otherRaw
  exact leftmost earlier (otherName, otherRaw)

end Reader

/--
A text declares something exactly when a definition begins somewhere in it, and
then it declares the name and the parameters of the leftmost one, which its
position determines.  What stands before a definition does not hide it as long as
no definition begins there, whether or not it holds the keyword.
-/
theorem definition?_exact
    (text : List Char) :
    ((definition? text).isSome = true ↔
      ∃ position name raw, DefinesAt text position name raw) ∧
      (∀ signature,
        definition? text = some signature ↔
          ∃ position name raw,
            IsLeftmostDefinition text position name raw ∧
              signature =
                ⟨String.ofList name, splitParameters (String.ofList raw),
                  none⟩) ∧
      (∀ position name raw otherName otherRaw,
        DefinesAt text position name raw →
          DefinesAt text position otherName otherRaw →
            name = otherName ∧ raw = otherRaw) ∧
      ∀ before written rest name raw,
        text = before ++ (written ++ rest) →
          written ∈ definition name raw →
            (∀ earlier < before.length, ∀ otherName otherRaw,
              ¬ DefinesAt text earlier otherName otherRaw) →
              definition? text =
                some
                  ⟨String.ofList name,
                    splitParameters (String.ofList raw), none⟩ := by
  refine ⟨?_, fun _ => definition?_eq_some_iff, ?_, ?_⟩
  · rw [Option.isSome_iff_exists]
    constructor
    · rintro ⟨signature, declared⟩
      rcases definition?_eq_some_iff.mp declared with
        ⟨position, name, raw, isLeftmost, -⟩
      exact ⟨position, name, raw, isLeftmost.defines⟩
    · rintro ⟨position, name, raw, defines⟩
      rcases defines.exists_isLeftmostDefinition with
        ⟨first, firstName, firstRaw, isLeftmost⟩
      exact
        ⟨_, definition?_eq_some_iff.mpr
          ⟨first, firstName, firstRaw, isLeftmost, rfl⟩⟩
  · intro position name raw otherName otherRaw defines otherDefines
    exact defines.unique otherDefines
  · rintro before written rest name raw rfl isDefinition nothingBefore
    have defines :
        DefinesAt (before ++ (written ++ rest)) before.length name raw := by
      rw [DefinesAt, List.drop_left]
      exact ⟨written, isDefinition, List.prefix_append written rest⟩
    refine
      definition?_eq_some_iff.mpr
        ⟨before.length, name, raw, ⟨defines, ?_⟩, rfl⟩
    intro earlier otherName otherRaw otherDefines
    refine Nat.le_of_not_lt fun isBefore => ?_
    exact nothingBefore earlier isBefore otherName otherRaw otherDefines

/-- A definition behind a call of `undefined` and an assignment to a name after the
keyword: it declares its name and parameters, and nothing else can be read at its
position. -/
theorem definition?_exact_hidden :
    definition? "undefined(x); def x = 1; def f(a, b):".toList =
        some ⟨"f", ["a", "b"], none⟩ ∧
      ∀ otherName otherRaw,
        DefinesAt "undefined(x); def x = 1; def f(a, b):".toList 25
            otherName otherRaw →
          "f".toList = otherName ∧ "a, b".toList = otherRaw := by
  have exact_here :=
    definition?_exact "undefined(x); def x = 1; def f(a, b):".toList
  have isGap : " ".toList ∈ gap := by
    decide
  have isName : IsName "f".toList :=
    ⟨by decide, List.forall_mem_singleton.mpr rfl⟩
  have isDefinition :
      "def f(a, b)".toList ∈ definition "f".toList "a, b".toList :=
    ⟨"def ".toList, ⟨"def".toList, rfl, " ".toList, isGap, rfl⟩,
      "f(a, b)".toList,
      ⟨"f".toList, ⟨rfl, isName⟩, "(a, b)".toList,
        ⟨[], nofun, "(a, b)".toList, ⟨rfl, by decide⟩, rfl⟩, rfl⟩, rfl⟩
  have nothingRead :
      ∀ earlier < 25,
        (definitionForm?
          ("undefined(x); def x = 1; def f(a, b):".toList.drop
            earlier)).isNone = true := by
    decide
  constructor
  · apply
      exact_here.2.2.2 "undefined(x); def x = 1; ".toList
        "def f(a, b)".toList ":".toList "f".toList "a, b".toList
        (by decide) isDefinition
    intro earlier isBefore otherName otherRaw otherDefines
    have nothing := nothingRead earlier isBefore
    rw [definitionForm?_eq_some_iff.mpr
      ⟨(otherName, otherRaw), otherDefines, rfl⟩] at nothing
    exact nomatch nothing
  · intro otherName otherRaw otherDefines
    refine exact_here.2.2.1 25 _ _ otherName otherRaw ?_ otherDefines
    exact ⟨"def f(a, b)".toList, isDefinition, ":".toList, rfl⟩

end TestScribe.Header

import TestScribe.Proofs.Header.Keyword
import TestScribe.Proofs.Header.Parentheses

/-!
# Control-flow statements

A control-flow statement that opens a block looks like a method: its keyword
stands before parentheses and a brace.  Without the marks of the other forms
only the last form can be found on its line, and the line declares nothing when
the leftmost text of this form has the keyword for its name.  So it is whenever
the keyword is followed by one balanced condition.  A word between the keyword
and the parentheses is taken for a name.
-/

namespace TestScribe.Header

open TestScribe.Source TestScribe.Text Grammar

/-! ## Pieces on either side of a separator -/

/-- A piece without the separator stands before it or behind it. -/
theorem infix_of_infix_append_cons
    {separator : Char}
    {piece before behind : List Char}
    (inPiece : separator ∉ piece)
    (inside : piece <:+: before ++ separator :: behind) :
    piece <:+: before ∨ piece <:+: behind := by
  have noFront :
      ∀ front, front ⊆ piece → front <+: separator :: behind →
        front = [] := by
    intro front fromPiece isFront
    cases front with
    | nil => rfl
    | cons character front =>
        rw [List.cons_prefix_cons] at isFront
        exact
          absurd (fromPiece (isFront.1 ▸ List.mem_cons_self)) inPiece
  rcases List.infix_append_iff.mp inside with
    inBefore | inBehind | ⟨left, right, rfl, isEnd, isFront⟩
  · exact .inl inBefore
  · rcases List.infix_cons_iff.mp inBehind with isFront | inBehind
    · rw [noFront piece (List.Subset.refl piece) isFront]
      exact .inl List.nil_infix
    · exact .inr inBehind
  · rw [noFront right (List.subset_append_right left right) isFront,
      List.append_nil]
    exact .inl isEnd.isInfix

/-! ## Written statements -/

/-- May the character stand right behind a keyword, or open the block? -/
def isSeparator
    (character : Char) :
    Bool :=
  isWhitespace character || character == '(' || character == '{'

/-- What may stand before the keyword of a control-flow statement. -/
def controlLeads : List String :=
  ["", "\x7d ", "\x7d else "]

/-- A control-flow statement that opens a block on its line. -/
structure ControlStatement where
  lead : String
  keyword : String
  /-- What stands between the keyword and the brace. -/
  rest : List Char
  isLead : lead ∈ controlLeads
  isKeyword : keyword ∈ controlKeywords
  apart : ∃ character ∈ rest.head?, isSeparator character = true
  noFunction : ¬ "function".toList <:+: rest
  noArrow : ¬ "=>".toList <:+: rest
  noColon : ¬ ":".toList <:+: rest

namespace ControlStatement

variable
    (statement : ControlStatement)
    {line : Line}

/-- What stands before the condition. -/
def front : List Char :=
  statement.lead.toList ++ statement.keyword.toList

/-- The statement as it stands on the trimmed line. -/
def text : List Char :=
  statement.front ++ (statement.rest ++ ['{'])

/-- Between the keyword and the brace stands one condition in parentheses,
which are balanced inside, and no other brace. -/
def HasPlainCondition : Prop :=
  ∃ before condition after,
    statement.rest = before ++ '(' :: (condition ++ ')' :: after) ∧
      isBlank before = true ∧ isBlank after = true ∧
        HasBalancedParentheses condition ∧ '{' ∉ condition

/-- What is checked of each lead and each keyword. -/
theorem lead_keyword_plain :
    ∀ lead ∈ controlLeads, ∀ keyword ∈ controlKeywords,
      IsName keyword.toList ∧
        lead.toList.getLast?.all (!isWordCharacter ·) = true ∧
          '(' ∉ lead.toList ++ keyword.toList ∧
            '{' ∉ lead.toList ++ keyword.toList ∧
              ∀ mark ∈ ["function", "=>", ":"],
                ¬ mark.toList <:+: lead.toList ++ keyword.toList := by
  decide

/-! ## The other forms -/

/-- A piece without separators stands before the statement's condition or in
it, or not at all. -/
theorem not_infix_text
    {piece : List Char}
    (solid : piece.any isSeparator = false)
    (absentInFront : ¬ piece <:+: statement.front)
    (absent : ¬ piece <:+: statement.rest) :
    ¬ piece <:+: statement.text := by
  have outside :
      ∀ character, isSeparator character = true → character ∉ piece := by
    intro character separates member
    rw [List.any_eq_false] at solid
    exact solid character member separates
  rcases statement.apart with ⟨separator, isFirst, separates⟩
  rcases List.head?_eq_some_iff.mp isFirst with ⟨others, restEq⟩
  rw [text, restEq, List.cons_append]
  rw [restEq] at absent
  intro inside
  rcases infix_of_infix_append_cons (outside _ separates) inside with
    inFront | behind
  · exact absentInFront inFront
  · rcases infix_of_infix_append_cons (outside '{' (by decide)) behind with
      inRest | isEmpty
    · exact absent (inRest.trans (List.suffix_cons _ others).isInfix)
    · rw [List.infix_nil.mp isEmpty] at absent
      exact absent List.nil_infix

/-- The statement holds none of the marks of the other forms. -/
theorem marks_absent :
    ∀ mark ∈ DeclarationForm.marks, ¬ mark <:+: statement.text := by
  rcases
      lead_keyword_plain _ statement.isLead _ statement.isKeyword with
    ⟨-, -, -, -, absentInFront⟩
  rintro _ (rfl | rfl | rfl)
  · exact
      statement.not_infix_text (by decide)
        (absentInFront "function" (by decide)) statement.noFunction
  · exact
      statement.not_infix_text (by decide)
        (absentInFront "=>" (by decide)) statement.noArrow
  · exact
      statement.not_infix_text (by decide)
        (absentInFront ":" (by decide)) statement.noColon

/-- The line declares nothing exactly when the leftmost text of the last form,
if there is one, has a control keyword for its name. -/
theorem declaration?_eq_none_iff
    (written : trim line = statement.text) :
    declaration? line = none ↔
      ∀ position name raw,
        DeclarationForm.method.IsLeftmost
            statement.text position name raw →
          String.ofList name ∈ controlKeywords := by
  have onlyMethod :
      declaration? line = DeclarationForm.method.signature? line :=
    DeclarationForm.declaration?_eq_signature?_method
      (fun _ => DeclarationForm.holds_marks)
      (written ▸ statement.marks_absent)
  simp only [onlyMethod, Option.eq_none_iff_forall_ne_some, ne_eq,
    DeclarationForm.signature?_eq_some_iff, DeclarationForm.Declares,
    written]
  constructor
  · intro undeclared position name raw isLeftmost
    by_contra notControl
    exact
      undeclared _ ⟨position, name, raw, isLeftmost, notControl, rfl⟩
  · rintro controls _ ⟨position, name, raw, isLeftmost, notControl, -⟩
    exact notControl (controls position name raw isLeftmost)

/-! ## Statements with one condition -/

/-- Before one condition the keyword is all that can be taken for a name. -/
theorem name_eq_keyword
    {position : Nat}
    {name raw : List Char}
    (plain : statement.HasPlainCondition)
    (isLeftmost :
      DeclarationForm.method.IsLeftmost
        statement.text position name raw) :
    name = statement.keyword.toList := by
  rcases plain with
    ⟨before, condition, after, restEq, blankBefore, blankAfter, balanced,
      noBrace⟩
  have whiteBefore := (isBlank_iff before).mp blankBefore
  have whiteAfter := (isBlank_iff after).mp blankAfter
  rcases
      lead_keyword_plain _ statement.isLead _ statement.isKeyword with
    ⟨isKeyword, leadChecked, frontNoOpening, frontNoBrace, -⟩
  have leadEnds :
      ∀ character ∈ statement.lead.toList.getLast?,
        OutsideWord character := by
    simpa [Option.all_eq_true] using leadChecked
  have noOpening : '(' ∉ statement.front ++ before := by
    rw [List.mem_append, not_or]
    exact
      ⟨frontNoOpening, not_mem_of_white whiteBefore (by decide)⟩
  have noClosing : ')' ∉ after :=
    not_mem_of_white whiteAfter (by decide)
  have onlyBrace :
      '{' ∉
        (statement.front ++ before) ++
          '(' :: (condition ++ ')' :: after) := by
    simp only [List.mem_append, List.mem_cons, not_or]
    exact
      ⟨⟨frontNoBrace, not_mem_of_white whiteBefore (by decide)⟩,
        by decide, noBrace, by decide,
        not_mem_of_white whiteAfter (by decide)⟩
  have textEq :
      statement.text =
        (statement.front ++ before) ++
          '(' :: (condition ++ ')' :: (after ++ ['{'])) := by
    simp only [text, restEq, List.append_assoc, List.cons_append]
  rw [textEq] at isLeftmost
  rcases
      isLeftmost.begins.reads_outer balanced noOpening noClosing
        onlyBrace with
    ⟨-, -, left, written, white, outerEq, isPosition, isLead, allWhite,
      isTail⟩
  have split :
      (statement.front ++ before) ++
          '(' :: (condition ++ ')' :: (after ++ ['{'])) =
        left ++ (written ++ (name ++ (white ++
          '(' :: (condition ++ ')' :: (after ++ ['{']))))) := by
    rw [outerEq]
    simp only [List.append_assoc]
  have wholeWord :=
    (isLeftmost.wholeWord split isPosition isLead isTail).1
  have sameOuter :
      (left ++ written) ++ (name ++ white) =
        statement.lead.toList ++
          (statement.keyword.toList ++ before) := by
    simpa only [front, List.append_assoc] using outerEq.symm
  calc
    name = lastWord ((left ++ written) ++ (name ++ white)) :=
      (lastWord_append isLeftmost.begins.isName allWhite wholeWord).symm
    _ = lastWord
          (statement.lead.toList ++
            (statement.keyword.toList ++ before)) := by
      rw [sameOuter]
    _ = statement.keyword.toList :=
      lastWord_append isKeyword whiteBefore leadEnds

end ControlStatement

/--
A control-flow statement is no declaration exactly when the leftmost text of the
form for methods on its line, if there is one, has a control keyword for its
name.  So it is when one condition in balanced parentheses, without an opening
brace, stands between the keyword and the brace.
-/
theorem control_statement_undeclared_iff
    (statement : ControlStatement)
    {line : Line}
    (written : trim line = statement.text) :
    (declaration? line = none ↔
      ∀ position name raw,
        DeclarationForm.method.IsLeftmost
            statement.text position name raw →
          String.ofList name ∈ controlKeywords) ∧
      (statement.HasPlainCondition → declaration? line = none) := by
  have undeclared_iff := statement.declaration?_eq_none_iff written
  refine ⟨undeclared_iff, fun plain => undeclared_iff.mpr ?_⟩
  intro position name raw isLeftmost
  rw [statement.name_eq_keyword plain isLeftmost, String.ofList_toList]
  exact statement.isKeyword

/-- A condition that holds a call and a group. -/
theorem control_statement_undeclared_iff_nested :
    trim "  \x7d else if (ready(a) && (b)) \x7b".toList =
        "\x7d else if (ready(a) && (b)) \x7b".toList ∧
      declaration? "  \x7d else if (ready(a) && (b)) \x7b".toList =
        none := by
  have written :
      trim "  \x7d else if (ready(a) && (b)) \x7b".toList =
        ControlStatement.text
          ⟨"\x7d else ", "if", " (ready(a) && (b)) ".toList, by decide,
            by decide, ⟨' ', rfl, by decide⟩, by decide, by decide,
            by decide⟩ := by
    decide
  refine ⟨by decide, ?_⟩
  apply (control_statement_undeclared_iff _ written).2
  exact
    ⟨[' '], "ready(a) && (b)".toList, [' '], by decide, by decide,
      by decide, by decide, by decide⟩

/-- A word between the keyword and the parentheses is taken for a name. -/
theorem awaited_loop_declared :
    (∃ statement : ControlStatement,
      trim "for await (const x of xs) \x7b".toList = statement.text) ∧
      declaration? "for await (const x of xs) \x7b".toList =
        some ⟨"await", ["const x of xs"], none⟩ := by
  constructor
  · exact
      ⟨⟨"", "for", " await (const x of xs) ".toList, by decide, by decide,
          ⟨' ', rfl, by decide⟩, by decide, by decide, by decide⟩,
        by decide⟩
  · decide

end TestScribe.Header

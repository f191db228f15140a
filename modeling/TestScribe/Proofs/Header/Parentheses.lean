import Mathlib.Data.List.Infix
import TestScribe.Proofs.Header.Occurrence

/-!
# Parameter lists in balanced parentheses

A parameter list is read up to the first closing parenthesis, whatever was
opened before it.  On a line with one outer pair of parentheses before its only
brace, the last form of a declaration must be closed by the last parenthesis,
since nothing but a type may stand between its list and the brace.  What was
opened inside the outer pair is closed before that, so only the outer pair
itself can be read as the list, and only if it holds no other parenthesis.
-/

namespace TestScribe.Header

open TestScribe.Source TestScribe.Text Grammar

/-- No parenthesis is closed before it is opened, and all are closed. -/
structure HasBalancedParentheses
    (text : List Char) : Prop where
  opened : ∀ front, front <+: text → front.count ')' ≤ front.count '('
  closed : text.count '(' = text.count ')'

instance (text : List Char) : Decidable (HasBalancedParentheses text) :=
  decidable_of_iff
    ((∀ front ∈ text.inits, front.count ')' ≤ front.count '(') ∧
      text.count '(' = text.count ')')
    ⟨fun ⟨opened, closed⟩ =>
        ⟨fun front isFront =>
          opened front ((List.mem_inits front text).mpr isFront), closed⟩,
      fun balanced =>
        ⟨fun front isFront =>
          balanced.opened front ((List.mem_inits front text).mp isFront),
          balanced.closed⟩⟩

/-- What is opened in a balanced text is closed behind. -/
theorem HasBalancedParentheses.closing_mem
    {text before behind : List Char}
    (balanced : HasBalancedParentheses text)
    (split : text = before ++ '(' :: behind) :
    ')' ∈ behind := by
  by_contra unclosed
  have behindNone : behind.count ')' = 0 :=
    List.count_eq_zero.mpr unclosed
  have beforeOpened :=
    balanced.opened before (split ▸ List.prefix_append _ _)
  have closed := balanced.closed
  rw [split, List.count_append, List.count_append,
    List.count_cons_self, List.count_cons_of_ne (by decide),
    behindNone] at closed
  omega

section Outer

variable
    {before raw rest outer inside after : List Char}

/-- Parentheses without a closing one between them and after them are the outer
pair. -/
theorem eq_outer_of_unclosed
    (balanced : HasBalancedParentheses inside)
    (noOpening : '(' ∉ outer)
    (noClosing : ')' ∉ after)
    (rawOpen : ')' ∉ raw)
    (restOpen : ')' ∉ rest)
    (same :
      before ++ '(' :: (raw ++ ')' :: rest) =
        outer ++ '(' :: (inside ++ ')' :: after)) :
    before = outer ∧ raw = inside ∧ rest = after := by
  have pieces :
      (before ++ '(' :: raw) ++ ')' :: rest =
        (outer ++ '(' :: inside) ++ ')' :: after := by
    simpa only [List.append_assoc, List.cons_append] using same
  rcases eq_of_append_cons_of_not_mem_right restOpen noClosing pieces with
    ⟨upToClosing, rfl⟩
  rcases append_cons_eq_append_cons upToClosing with
    ⟨beforeEq, -, rawEq⟩ | ⟨between, rfl, -⟩ | ⟨between, -, insideEq⟩
  · exact ⟨beforeEq, rawEq, rfl⟩
  · exact absurd List.mem_append_cons_self noOpening
  · exact absurd (balanced.closing_mem insideEq) rawOpen

/-- Nothing that may stand between a parameter list and its brace closes a
parenthesis. -/
theorem exists_front_of_mem_body
    {text : List Char}
    (member : text ∈ body) :
    ∃ front, text = front ++ ['{'] ∧ ')' ∉ front := by
  rcases member with
    ⟨typed, isTyped, _, ⟨white, allWhite, _, rfl, rfl⟩, rfl⟩
  refine ⟨typed ++ white, (List.append_assoc _ _ _).symm, ?_⟩
  rw [List.mem_append, not_or]
  refine ⟨?_, not_mem_of_white allWhite (by decide)⟩
  rcases isTyped with
    rfl | ⟨first, firstWhite, _, ⟨_, rfl, _, ⟨second, secondWhite, typing,
      ⟨-, solid⟩, rfl⟩, rfl⟩, rfl⟩
  · exact List.not_mem_nil
  · simp only [List.mem_append, not_or]
    exact
      ⟨not_mem_of_white firstWhite (by decide), by decide,
        not_mem_of_white secondWhite (by decide),
        fun closing => absurd (solid ')' closing) (by decide)⟩

/--
On a line with one outer pair of parentheses before its only brace, the last
form of a declaration reads this pair as its parameter list, which then holds no
closing parenthesis.
-/
theorem DeclarationForm.BeginsAt.reads_outer
    {position : Nat}
    {name : List Char}
    (balanced : HasBalancedParentheses inside)
    (noOpening : '(' ∉ outer)
    (noClosing : ')' ∉ after)
    (noBrace : '{' ∉ outer ++ '(' :: (inside ++ ')' :: after))
    (begins :
      DeclarationForm.method.BeginsAt
        (outer ++ '(' :: (inside ++ ')' :: (after ++ ['{'])))
        position name raw) :
    raw = inside ∧ ')' ∉ inside ∧
      ∃ before written white,
        outer = before ++ (written ++ (name ++ white)) ∧
          before.length = position ∧
            written ∈ DeclarationForm.method.lead ∧
              (∀ character ∈ white, isWhitespace character = true) ∧
                Begins (DeclarationForm.method.tail raw)
                  (white ++
                    '(' :: (inside ++ ')' :: (after ++ ['{']))) := by
  rcases begins.exists_split with
    ⟨before, written, rest, split, isPosition, isLead, isTail⟩
  rcases begins_mul_iff.mp isTail with
    ⟨white, allWhite, _, rfl, listBegins⟩
  rcases begins_mul_iff.mp listBegins with
    ⟨_, ⟨rfl, rawOpen⟩, behind, rfl, bodyText, isBody, more, rfl⟩
  rcases exists_front_of_mem_body isBody with ⟨front, rfl, frontOpen⟩
  -- The brace of the form is the only one, so nothing stands behind it.
  have upToBrace :
      (outer ++ '(' :: (inside ++ ')' :: after)) ++ '{' :: [] =
        ((before ++ (written ++ (name ++ white))) ++
          '(' :: (raw ++ ')' :: front)) ++ '{' :: more := by
    simpa only [List.append_assoc, List.cons_append, List.nil_append]
      using split
  rcases
      (List.append_cons_inj_of_notMem noBrace List.not_mem_nil).mp
        upToBrace with
    ⟨sameLists, -, rfl⟩
  rcases
      eq_outer_of_unclosed balanced noOpening noClosing rawOpen frontOpen
        sameLists.symm with
    ⟨rfl, rfl, rfl⟩
  have behindName :
      white ++ '(' :: (raw ++ ')' :: (front ++ ['{'])) =
        white ++ (('(' :: (raw ++ [')'])) ++ (front ++ ['{'] ++ [])) := by
    simp only [List.append_assoc, List.cons_append, List.nil_append,
      List.append_nil]
  exact
    ⟨rfl, rawOpen, before, written, white, rfl, isPosition, isLead,
      allWhite, behindName ▸ isTail⟩

end Outer

end TestScribe.Header

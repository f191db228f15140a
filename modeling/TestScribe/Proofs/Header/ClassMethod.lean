import TestScribe.Proofs.Header.Keyword
import TestScribe.Proofs.Header.Parentheses
import TestScribe.Proofs.Header.SoleList

/-!
# Written methods of a class

A method of a class is written `[async] NAME(PARAMETERS)` with any indentation,
and a brace that opens its body.  When the parameters hold no parentheses, the
only parenthesis is opened behind the name, so no other form can begin on the
line and the method is declared under its own name.  When they hold balanced
parentheses, the form for methods is not found on the line at all: its list
would end at the first closing parenthesis, behind which no body is opened.
-/

namespace TestScribe.Header

open TestScribe.Source TestScribe.Text Grammar

/-- A method of a class as it is written on a line. -/
structure ClassMethod where
  indent : List Char
  isAsync : Bool
  name : List Char
  /-- What stands between the parentheses. -/
  raw : List Char
  blank : isBlank indent = true
  isName : IsName name
  notControl : String.ofList name ∉ controlKeywords

namespace ClassMethod

variable (method : ClassMethod)

/-- What stands before the parameters. -/
def front : List Char :=
  withOptionalKeyword "async" method.isAsync method.name

/-- The text after the indentation. -/
def text : List Char :=
  method.front ++ '(' :: (method.raw ++ ')' :: ([' '] ++ ['{']))

/-- The written line. -/
def line : Line :=
  method.indent ++ method.text

theorem front_ne_nil :
    method.front ≠ [] :=
  withOptionalKeyword_ne_nil _ method.isName.nonempty

theorem trim_line :
    trim method.line = method.text := by
  have begins : BeginsVisible method.text := by
    refine BeginsVisible.append ?_ method.front_ne_nil _
    apply beginsVisible_withOptionalKeyword (by decide)
    simpa using method.isName.beginsVisible_append []
  have ends : EndsVisible method.text := by
    have pieces :
        method.text =
          (method.front ++ '(' :: (method.raw ++ ')' :: [' '])) ++ ['{'] := by
      simp [text]
    rw [pieces]
    exact EndsVisible.append (by decide) (List.cons_ne_nil _ _) _
  have bare :=
    trim_append_append ((isBlank_iff _).mp method.blank)
      (List.forall_mem_nil _) (by simp [text]) begins ends
  rwa [List.append_nil] at bare

/-- Before the parameters stand word characters, and a space if the keyword is
written. -/
theorem not_mem_front
    {character : Char}
    (notWord : isWordCharacter character = false)
    (notSpace : character ≠ ' ') :
    character ∉ method.front :=
  not_mem_withOptionalKeyword (by decide) notWord notSpace _
    (method.isName.not_mem notWord)

/-! ## Reading the written line -/

/-- When the parameters hold no parenthesis, the only one is opened behind the
name. -/
def soleList
    (noOpening : '(' ∉ method.raw)
    (noClosing : ')' ∉ method.raw) :
    SoleList where
  front := withOptionalKeyword "async" method.isAsync []
  name := method.name
  raw := method.raw
  rest := [' ', '{']
  isName := method.isName
  outside := by
    intro character isLast
    cases isAsync : method.isAsync with
    | false =>
        rw [isAsync] at isLast
        exact nomatch isLast
    | true =>
        rw [isAsync] at isLast
        rw [← Option.some.inj isLast]
        decide
  noOpening := by
    have frontPlain :
        '(' ∉ withOptionalKeyword "async" method.isAsync [] := by
      cases method.isAsync <;> decide
    simp [frontPlain, noOpening]
  noClosing := noClosing
  unmarked := by
    cases method.isAsync <;> decide

theorem text_soleList
    (noOpening : '(' ∉ method.raw)
    (noClosing : ')' ∉ method.raw) :
    (method.soleList noOpening noClosing).text = method.text := by
  simp only [SoleList.text, soleList, text, front, withOptionalKeyword]
  split <;> simp [withKeyword]

/-- A method whose parameters hold no parenthesis is declared. -/
theorem declaration?_line
    (noOpening : '(' ∉ method.raw)
    (noClosing : ')' ∉ method.raw) :
    declaration? method.line =
      some
        ⟨String.ofList method.name,
          splitParameters (String.ofList method.raw), none⟩ := by
  have written :
      trim method.line = (method.soleList noOpening noClosing).text :=
    method.trim_line.trans (method.text_soleList noOpening noClosing).symm
  have opens : opensBody [' ', '{'] = true := by
    decide
  rw [SoleList.declaration?_eq _ written]
  exact if_pos ⟨opens, method.notControl⟩

/-- Balanced parentheses among the parameters end the list before the body is
opened. -/
theorem not_beginsAt_of_opening
    (balanced : HasBalancedParentheses method.raw)
    (opening : '(' ∈ method.raw)
    (noBrace : '{' ∉ method.raw)
    (position : Nat)
    (name raw : List Char) :
    ¬ DeclarationForm.method.BeginsAt method.text position name raw := by
  intro begins
  have onlyBrace :
      '{' ∉ method.front ++ '(' :: (method.raw ++ ')' :: [' ']) := by
    have frontPlain : '{' ∉ method.front :=
      method.not_mem_front (by decide) (by decide)
    simp [frontPlain, noBrace]
  rcases
      begins.reads_outer balanced
        (method.not_mem_front (by decide) (by decide)) (by decide)
        onlyBrace with
    ⟨-, unclosed, -⟩
  rcases List.append_of_mem opening with ⟨before, behind, split⟩
  have closing := balanced.closing_mem split
  apply unclosed
  rw [split]
  exact List.mem_append_right _ (List.mem_cons_of_mem _ closing)

end ClassMethod

/--
A method of a class is declared under its own name and with its own parameters
when these hold no parentheses.  When they hold balanced parentheses and no
opening brace, no text of the form for methods begins anywhere on the line.
-/
theorem class_method_declared
    (method : ClassMethod) :
    ('(' ∉ method.raw →
      ')' ∉ method.raw →
        declaration? method.line =
          some
            ⟨String.ofList method.name,
              splitParameters (String.ofList method.raw), none⟩) ∧
      (HasBalancedParentheses method.raw →
        '(' ∈ method.raw →
          '{' ∉ method.raw →
            ∀ position name raw,
              ¬ DeclarationForm.method.BeginsAt
                  (trim method.line) position name raw) := by
  constructor
  · exact method.declaration?_line
  · intro balanced opening noBrace
    rw [method.trim_line]
    exact method.not_beginsAt_of_opening balanced opening noBrace

/-- A typed method with the keyword. -/
theorem class_method_declared_typed :
    declaration? "  async load(url: string, all = true) \x7b".toList =
      some ⟨"load", ["url: string", "all = true"], none⟩ := by
  have declared :=
    (class_method_declared
      ⟨"  ".toList, true, "load".toList, "url: string, all = true".toList,
        by decide, by decide, by decide⟩).1 (by decide) (by decide)
  have parameters :
      splitParameters "url: string, all = true" =
        ["url: string", "all = true"] := by
    decide
  rw [← parameters]
  exact declared

/-- A parameter of function type is taken for a property. -/
theorem callback_parameter_declared :
    ∃ method : ClassMethod,
      method.line = "on(cb: (v) => void) \x7b".toList ∧
        String.ofList method.name = "on" ∧
          HasBalancedParentheses method.raw ∧
            ¬ "function".toList <:+: method.raw ∧
              '{' ∉ method.raw ∧ '}' ∉ method.raw ∧
                declaration? method.line =
                  some ⟨"cb", ["v"], none⟩ := by
  refine
    ⟨⟨[], false, "on".toList, "cb: (v) => void".toList, by decide,
      by decide, by decide⟩, ?_⟩
  decide

end TestScribe.Header

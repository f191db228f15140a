import TestScribe.Proofs.Header.SoleList

/-!
# Calls before a colon

A call that stands between a question mark and a colon, or between the keyword
of a label and a colon, is no method, even when a brace is opened behind the
colon.  The form for methods takes what stands between colon and brace for a
return type, which has to be there but may be white space.  So such a line
declares nothing when the brace stands right behind the colon, and declares the
call when white space stands between them.
-/

namespace TestScribe.Header

open TestScribe.Source TestScribe.Text Grammar

/-! ## What stands before the call -/

/-- What stands before a call that a colon follows. -/
inductive CallLead where
  /-- The condition of a conditional expression and the question mark. -/
  | alternative
    (condition spaces : List Char)
    (noOpening : '(' ∉ condition)
    (blank : isBlank spaces = true)
  /-- The keyword of a label. -/
  | label
    (indent between : List Char)
    (blank : isBlank indent = true)
    (isGap : between ∈ gap)

namespace CallLead

/-- The lead as it is written. -/
def text : CallLead → List Char
  | .alternative condition spaces _ _ => condition ++ '?' :: spaces
  | .label indent between _ _ => indent ++ ("case".toList ++ between)

/-- The lead without the white space around it. -/
def body : CallLead → List Char
  | .alternative condition _ _ _ => trimStart condition ++ ['?']
  | .label _ _ _ _ => "case".toList

/-- The white space right before the call. -/
def white : CallLead → List Char
  | .alternative _ spaces _ _ => spaces
  | .label _ between _ _ => between

variable (lead : CallLead)

theorem isWhitespace_of_mem_white :
    ∀ character ∈ lead.white, isWhitespace character = true := by
  cases lead with
  | alternative condition spaces noOpening blank =>
      exact (isBlank_iff spaces).mp blank
  | label indent between blank isGap => exact isGap.2

theorem body_ne_nil :
    lead.body ≠ [] := by
  cases lead with
  | alternative => exact List.concat_ne_nil _ _
  | label =>
      show "case".toList ≠ []
      decide

theorem endsVisible_body :
    EndsVisible lead.body := by
  cases lead with
  | alternative =>
      exact EndsVisible.append (by decide) (List.cons_ne_nil _ _) _
  | label =>
      show EndsVisible "case".toList
      decide

theorem trimStart_text :
    trimStart lead.text = lead.body ++ lead.white := by
  cases lead with
  | alternative condition spaces noOpening blank =>
      rw [text, trimStart_append_cons (by decide)]
      exact List.append_cons _ _ _
  | label indent between blank isGap =>
      have isName : IsName "case".toList := by
        decide
      exact
        dropWhile_append_of_boundary ((isBlank_iff indent).mp blank)
          (isName.beginsVisible_append between)

theorem opening_not_mem :
    '(' ∉ lead.body ++ lead.white := by
  have whitePlain : '(' ∉ lead.white :=
    not_mem_of_white lead.isWhitespace_of_mem_white (by decide)
  rw [List.mem_append, not_or]
  refine ⟨?_, whitePlain⟩
  cases lead with
  | alternative condition spaces noOpening blank =>
      have trimmedPlain : '(' ∉ trimStart condition := fun member =>
        noOpening ((trimStart_isSuffix condition).subset member)
      simp [body, trimmedPlain]
  | label =>
      show '(' ∉ "case".toList
      decide

/-- Nothing right before the call could make its name longer. -/
theorem outside :
    ∀ character ∈ (lead.body ++ lead.white).getLast?,
      OutsideWord character := by
  apply outside_append_white lead.isWhitespace_of_mem_white
  cases lead with
  | alternative =>
      intro _ character isLast
      rw [body, List.getLast?_concat, Option.mem_some] at isLast
      rw [← isLast]
      decide
  | label indent between blank isGap =>
      exact fun empty => absurd empty isGap.1

/-- Neither a question mark nor the keyword is a mark of another form. -/
theorem unmarked :
    ∀ mark ∈ DeclarationForm.listMarks, ¬ mark.toList <:+ lead.body := by
  cases lead with
  | alternative condition spaces noOpening blank =>
      have lastDiffers :
          ∀ mark ∈ DeclarationForm.listMarks,
            mark.toList ≠ [] ∧ mark.toList.getLast? ≠ some '?' := by
        decide
      rintro mark isMark ⟨before, same⟩
      rcases lastDiffers mark isMark with ⟨nonempty, differs⟩
      have sameLast := congrArg List.getLast? same
      rw [body, List.getLast?_concat, List.getLast?_append,
        List.getLast?_eq_some_getLast nonempty, Option.some_or,
        ← List.getLast?_eq_some_getLast nonempty] at sameLast
      exact differs sameLast
  | label =>
      show ∀ mark ∈ DeclarationForm.listMarks,
        ¬ mark.toList <:+ "case".toList
      decide

end CallLead

/-! ## Written calls -/

/-- A call with a colon and a brace behind it. -/
structure CallBeforeColon where
  lead : CallLead
  name : List Char
  /-- What stands between the parentheses. -/
  raw : List Char
  beforeColon : List Char
  beforeBrace : List Char
  behindBrace : List Char
  isName : IsName name
  noOpening : '(' ∉ raw
  noClosing : ')' ∉ raw
  blankBeforeColon : isBlank beforeColon = true
  blankBeforeBrace : isBlank beforeBrace = true
  blankBehindBrace : isBlank behindBrace = true

namespace CallBeforeColon

variable (call : CallBeforeColon)

/-- What stands behind the parentheses, up to the brace. -/
def behindList : List Char :=
  call.beforeColon ++ ':' :: (call.beforeBrace ++ ['{'])

/-- The written line. -/
def line : Line :=
  call.lead.text ++
    (call.name ++
      '(' :: (call.raw ++ ')' :: (call.behindList ++ call.behindBrace)))

/-- The only parenthesis is opened behind the name. -/
def soleList : SoleList where
  front := call.lead.body ++ call.lead.white
  name := call.name
  raw := call.raw
  rest := call.behindList
  isName := call.isName
  outside := call.lead.outside
  noOpening := by
    have frontPlain := call.lead.opening_not_mem
    have colonPlain : '(' ∉ call.beforeColon :=
      not_mem_of_white ((isBlank_iff _).mp call.blankBeforeColon)
        (by decide)
    have bracePlain : '(' ∉ call.beforeBrace :=
      not_mem_of_white ((isBlank_iff _).mp call.blankBeforeBrace)
        (by decide)
    simp only [behindList, List.mem_append, List.mem_cons,
      List.not_mem_nil, not_or, or_false] at frontPlain ⊢
    exact
      ⟨frontPlain, call.noOpening, colonPlain, by decide, bracePlain,
        by decide⟩
  noClosing := call.noClosing
  unmarked := by
    rw [trimEnd_append call.lead.isWhitespace_of_mem_white
      call.lead.endsVisible_body]
    exact call.lead.unmarked

theorem trim_line :
    trim call.line = call.soleList.text := by
  have leadVisible : trimStart call.lead.text ≠ [] := by
    rw [call.lead.trimStart_text]
    exact List.append_ne_nil_of_left_ne_nil call.lead.body_ne_nil _
  have trimmedStart :
      trimStart call.line = call.soleList.text ++ call.behindBrace := by
    rw [line, trimStart_append leadVisible, call.lead.trimStart_text]
    simp only [SoleList.text, soleList, List.append_assoc,
      List.cons_append]
  have endsInBrace :
      call.soleList.text =
        (call.lead.body ++ call.lead.white ++
          (call.name ++ '(' :: (call.raw ++ ')' ::
            (call.beforeColon ++ ':' :: call.beforeBrace)))) ++ ['{'] := by
    simp only [SoleList.text, soleList, behindList, List.append_assoc,
      List.cons_append]
  rw [trim, trimmedStart,
    trimEnd_append ((isBlank_iff _).mp call.blankBehindBrace)]
  rw [endsInBrace]
  exact EndsVisible.append (by decide) (List.cons_ne_nil _ _) _

/-- The white space between colon and brace is what can be taken for a type. -/
theorem opensBody_behindList :
    opensBody call.behindList = !call.beforeBrace.isEmpty := by
  have colonVisible :
      BeginsVisible (':' :: (call.beforeBrace ++ ['{'])) :=
    beginsVisible_cons (by decide) _
  have inType :
      ∀ character ∈ call.beforeBrace, isTypeCharacter character = true :=
    fun character member =>
      isTypeCharacter_of_isWhitespace
        ((isBlank_iff _).mp call.blankBeforeBrace character member)
  have braceStops :
      ∀ character ∈ ['{'].head?, isTypeCharacter character = false := by
    apply forall_mem_head?_cons
    decide
  rw [opensBody, behindList,
    afterSpaces_append ((isBlank_iff _).mp call.blankBeforeColon)
      colonVisible]
  simp only [takeWhile_append_of_boundary inType braceStops,
    dropWhile_append_of_boundary inType braceStops]
  simp

/-- The call is declared unless the brace stands right behind the colon, or the
name is a control keyword. -/
theorem declaration?_line :
    declaration? call.line =
      if call.beforeBrace ≠ [] ∧
          String.ofList call.name ∉ controlKeywords then
        some
          ⟨String.ofList call.name,
            splitParameters (String.ofList call.raw), none⟩
      else
        none := by
  have opens_iff :
      opensBody call.soleList.rest = true ↔ call.beforeBrace ≠ [] := by
    rw [soleList, call.opensBody_behindList]
    simp
  rw [call.soleList.declaration?_eq call.trim_line]
  simp only [opens_iff]
  rfl

end CallBeforeColon

/--
A call that a colon and a brace follow, behind a question mark or behind the
keyword of a label, declares nothing exactly when the brace stands right behind
the colon or the name is a control keyword.  Otherwise it is declared with its
own name and parameters.
-/
theorem call_before_colon_undeclared_iff
    (call : CallBeforeColon) :
    (declaration? call.line = none ↔
      call.beforeBrace = [] ∨ String.ofList call.name ∈ controlKeywords) ∧
      (call.beforeBrace ≠ [] →
        String.ofList call.name ∉ controlKeywords →
          declaration? call.line =
            some
              ⟨String.ofList call.name,
                splitParameters (String.ofList call.raw), none⟩) := by
  rw [call.declaration?_line]
  constructor
  · rw [ite_eq_right_iff]
    simp only [reduceCtorEq, imp_false, not_and_or, not_not]
  · intro spaced notControl
    exact if_pos ⟨spaced, notControl⟩

/-- A label with the brace right behind the colon, and one with white space
between them. -/
theorem call_before_colon_undeclared_iff_label :
    declaration? "  case kind(a, b):\x7b".toList = none ∧
      declaration? "  case kind(a, b):  \x7b ".toList =
        some ⟨"kind", ["a", "b"], none⟩ := by
  let lead : CallLead :=
    .label [' ', ' '] [' '] (by decide) (by decide)
  have tight :=
    (call_before_colon_undeclared_iff
      ⟨lead, "kind".toList, "a, b".toList, [], [], [], by decide,
        by decide, by decide, by decide, by decide, by decide⟩).1
  have spaced :=
    (call_before_colon_undeclared_iff
      ⟨lead, "kind".toList, "a, b".toList, [], [' ', ' '], [' '], by decide,
        by decide, by decide, by decide, by decide, by decide⟩).2
  have parameters : splitParameters "a, b" = ["a", "b"] := by
    decide
  rw [← parameters]
  exact ⟨tight.mpr (.inl rfl), spaced (by decide) (by decide)⟩

/-- The alternative of a conditional expression is declared as a method. -/
theorem alternative_before_brace_declared :
    ∃ call : CallBeforeColon,
      call.line = "const v = cond ? build(a) : \x7b".toList ∧
        declaration? call.line = some ⟨"build", ["a"], none⟩ := by
  refine
    ⟨⟨.alternative "const v = cond ".toList [' '] (by decide) (by decide),
      "build".toList, "a".toList, [' '], [' '], [], by decide, by decide,
      by decide, by decide, by decide, by decide⟩, ?_⟩
  decide

end TestScribe.Header

import TestScribe.Proofs.Header.Occurrence

/-!
# Lines with one opening parenthesis

When the only opening parenthesis of a line stands right behind a name, and what
stands before the name ends in none of the marks that the other forms have
before their lists, only the form for methods can be found on the line.  It then
reads this name and this list, and it is found exactly when the rest of the line
opens a body.
-/

namespace TestScribe.Header

open TestScribe.Source TestScribe.Text Grammar

/-- A text whose only opening parenthesis opens a list behind a name. -/
structure SoleList where
  /-- What stands before the name. -/
  front : List Char
  name : List Char
  /-- What stands between the parentheses. -/
  raw : List Char
  /-- What stands behind the list. -/
  rest : List Char
  isName : IsName name
  outside : ∀ character ∈ front.getLast?, OutsideWord character
  noOpening : '(' ∉ front ++ (raw ++ rest)
  noClosing : ')' ∉ raw
  unmarked :
    ∀ mark ∈ DeclarationForm.listMarks, ¬ mark.toList <:+ trimEnd front

namespace SoleList

variable
    (list : SoleList)
    {line : Line}
    {position : Nat}
    {name raw before after : List Char}

/-- The whole text. -/
def text : List Char :=
  list.front ++ (list.name ++ '(' :: (list.raw ++ ')' :: list.rest))

/-- What the name and the list declare. -/
def signature : Signature where
  name := String.ofList list.name
  parameters := splitParameters (String.ofList list.raw)
  returnType := none

/-- Every opening parenthesis of the text is the one behind the name. -/
theorem eq_of_opening
    (same : before ++ '(' :: after = list.text) :
    before = list.front ++ list.name ∧
      after = list.raw ++ ')' :: list.rest := by
  have noOpening := list.noOpening
  simp only [List.mem_append, not_or] at noOpening
  have frontPlain : '(' ∉ list.front ++ list.name := by
    rw [List.mem_append, not_or]
    exact ⟨noOpening.1, list.isName.not_mem (by decide)⟩
  have restPlain : '(' ∉ list.raw ++ ')' :: list.rest := by
    simp only [List.mem_append, List.mem_cons, not_or]
    exact ⟨noOpening.2.1, by decide, noOpening.2.2⟩
  have upToOpening :
      (list.front ++ list.name) ++ '(' :: (list.raw ++ ')' :: list.rest) =
        before ++ '(' :: after := by
    rw [same, text, List.append_assoc]
  rcases
      (List.append_cons_inj_of_notMem frontPlain restPlain).mp
        upToOpening with
    ⟨frontEq, -, restEq⟩
  exact ⟨frontEq.symm, restEq.symm⟩

/-! ## The other forms -/

/-- Right before the parenthesis stands a name and no mark. -/
theorem append_mark_ne
    {mark : List Char}
    (isMark : mark ∈ DeclarationForm.listMark) :
    before ++ mark ≠ list.front ++ list.name := by
  intro same
  have isLast :=
    List.getLast?_eq_some_getLast list.isName.nonempty
  have outside :=
    DeclarationForm.outside_append_listMark isMark before
      (list.name.getLast list.isName.nonempty)
      (by rw [same, List.getLast?_append, isLast]; rfl)
  have isWord :=
    list.isName.word _ (List.getLast_mem list.isName.nonempty)
  rw [outside] at isWord
  exact nomatch isWord

/-- No mark stands before the name either. -/
theorem append_mark_ne_front
    {mark : List Char}
    (isMark : mark ∈ DeclarationForm.listMark) :
    before ++ mark ≠ list.front := by
  intro same
  rcases DeclarationForm.exists_of_mem_listMark isMark with
    ⟨text, isText, white, rfl, allWhite⟩
  rcases DeclarationForm.listMarks_visible text isText with
    ⟨nonempty, ends⟩
  apply list.unmarked text isText
  rw [← same, ← List.append_assoc,
    trimEnd_append allWhite (ends.append nonempty before)]
  exact List.suffix_append before text.toList

theorem listLead_absent :
    ∀ piece ∈ DeclarationForm.listLead * literal "(",
      ¬ piece <:+: list.text := by
  rintro _ ⟨_, ⟨mark, isMark, behind, isBehind, rfl⟩, _, rfl, rfl⟩
    ⟨before, after, split⟩
  have upToOpening :
      ((before ++ mark) ++ behind) ++ '(' :: after = list.text := by
    simpa using split
  rcases list.eq_of_opening upToOpening with ⟨frontEq, -⟩
  rcases isBehind with rfl | ⟨word, isWord, white, allWhite, rfl⟩
  · rw [List.append_nil] at frontEq
    exact list.append_mark_ne isMark frontEq
  · have sameWord :
        (before ++ mark) ++ (word ++ white) =
          list.front ++ (list.name ++ []) := by
      rw [frontEq, List.append_nil]
    rcases
        eq_of_append_word isWord list.isName allWhite
          (List.forall_mem_nil _)
          (DeclarationForm.outside_append_listMark isMark before)
          list.outside sameWord with
      ⟨sameFront, -, -⟩
    exact list.append_mark_ne_front isMark sameFront

/-! ## The form for methods -/

/-- Wherever the form for methods begins, it reads the list, and the rest opens a
body. -/
theorem reads_list
    (begins :
      DeclarationForm.method.BeginsAt list.text position name raw) :
    raw = list.raw ∧ opensBody list.rest = true ∧
      ∃ before written white,
        list.text = before ++ (written ++ (name ++ (white ++
          '(' :: (list.raw ++ ')' :: list.rest)))) ∧
          before.length = position ∧
            written ∈ DeclarationForm.method.lead ∧
              (∀ character ∈ white, isWhitespace character = true) ∧
                Begins (DeclarationForm.method.tail raw)
                  (white ++ '(' :: (list.raw ++ ')' :: list.rest)) := by
  rcases begins.exists_split with
    ⟨before, written, rest, split, isPosition, isLead, isTail⟩
  rcases begins_mul_iff.mp isTail with
    ⟨white, allWhite, fromList, rfl, listBegins⟩
  rcases begins_parameterList_mul_iff.mp listBegins with
    ⟨behind, listRead, isBody⟩
  rcases parenthesized?_eq_some_iff.mp listRead with ⟨rfl, -⟩
  have upToOpening :
      (before ++ (written ++ (name ++ white))) ++
          '(' :: (raw ++ ')' :: behind) =
        list.text := by
    rw [split]
    simp only [List.append_assoc]
  have behindEq := (list.eq_of_opening upToOpening).2
  have soleRead := parenthesized?_append list.noClosing list.rest
  rw [← behindEq, listRead, Option.some.injEq, Prod.mk.injEq] at soleRead
  rcases soleRead with ⟨rfl, rfl⟩
  exact
    ⟨rfl, begins_body_iff.mp isBody, before, written, white, split,
      isPosition, isLead, allWhite, isTail⟩

/-- At its leftmost place the form for methods reads the whole name. -/
theorem eq_name_of_isLeftmost
    (isLeftmost :
      DeclarationForm.method.IsLeftmost list.text position name raw) :
    name = list.name := by
  rcases list.reads_list isLeftmost.begins with
    ⟨rfl, -, before, written, white, split, isPosition, isLead, allWhite,
      isTail⟩
  have wholeWord :=
    (isLeftmost.wholeWord split isPosition isLead isTail).1
  have upToOpening :
      ((before ++ written) ++ (name ++ white)) ++
          '(' :: (list.raw ++ ')' :: list.rest) =
        list.text := by
    rw [split]
    simp only [List.append_assoc]
  have sameWord :
      (before ++ written) ++ (name ++ white) =
        list.front ++ (list.name ++ []) := by
    rw [(list.eq_of_opening upToOpening).1, List.append_nil]
  exact
    (eq_of_append_word isLeftmost.begins.isName list.isName allWhite
      (List.forall_mem_nil _) wholeWord list.outside sameWord).2.1

theorem beginsAt_name
    (opens : opensBody list.rest = true) :
    DeclarationForm.method.BeginsAt list.text list.front.length
      list.name list.raw := by
  have nameRead :
      namedParameters?
          (list.name ++ '(' :: (list.raw ++ ')' :: list.rest)) =
        some ((list.name, list.raw), list.rest) :=
    namedParameters?_append [] list.isName (List.forall_mem_nil _)
      list.noClosing list.rest
  rw [DeclarationForm.BeginsAt, text, List.drop_left,
    DeclarationForm.language, DeclarationForm.lead,
    begins_optional_mul_iff]
  exact
    .inl
      (begins_heading_mul_iff.mpr
        ⟨list.rest, nameRead, begins_body_iff.mpr opens⟩)

theorem declares_iff
    (written : trim line = list.text)
    (signature : Signature) :
    DeclarationForm.method.Declares line signature ↔
      opensBody list.rest = true ∧
        String.ofList list.name ∉ controlKeywords ∧
          signature = list.signature := by
  rw [DeclarationForm.Declares, written]
  constructor
  · rintro ⟨position, name, raw, isLeftmost, notControl, rfl⟩
    rcases list.reads_list isLeftmost.begins with ⟨rfl, opens, -⟩
    rcases list.eq_name_of_isLeftmost isLeftmost with rfl
    exact ⟨opens, notControl, rfl⟩
  · rintro ⟨opens, notControl, rfl⟩
    rcases (list.beginsAt_name opens).exists_isLeftmost with
      ⟨position, name, raw, isLeftmost⟩
    rcases list.reads_list isLeftmost.begins with ⟨rfl, -⟩
    rcases list.eq_name_of_isLeftmost isLeftmost with rfl
    exact ⟨position, _, _, isLeftmost, notControl, rfl⟩

/-- The line declares the name with its list exactly when the rest opens a body
and the name is no control keyword, and otherwise nothing. -/
theorem declaration?_eq
    (written : trim line = list.text) :
    declaration? line =
      if opensBody list.rest = true ∧
          String.ofList list.name ∉ controlKeywords then
        some list.signature
      else
        none := by
  have onlyMethod :
      declaration? line = DeclarationForm.method.signature? line :=
    DeclarationForm.declaration?_eq_signature?_method
      (fun _ => DeclarationForm.holds_listLead)
      (written ▸ list.listLead_absent)
  rw [onlyMethod]
  apply Option.ext
  intro signature
  rw [DeclarationForm.signature?_eq_some_iff, list.declares_iff written,
    Option.ite_none_right_eq_some, Option.some.injEq, and_assoc,
    @eq_comm _ signature]

end SoleList

end TestScribe.Header

import TestScribe.Proofs.Header.DeclarationGrammar

/-!
# Where the forms of a declaration occur

A form is ruled out on a whole line by a piece that all its texts hold and the
line does not.  Every form but the last has such pieces: each of its texts holds
the keyword `function`, an arrow or a colon, and holds before a parenthesis the
keyword with white space after it, an equals sign or a colon, with at most one
word between them.  On a line without these pieces only the last form can declare
anything.
-/

namespace TestScribe.Header

open TestScribe.Source TestScribe.Text Grammar

/-! ## The last word of a text -/

/-- The word at the end of a text, white space behind it left out. -/
def lastWord
    (text : List Char) :
    List Char :=
  ((text.reverse.dropWhile isWhitespace).takeWhile
    isWordCharacter).reverse

theorem lastWord_append
    {before name white : List Char}
    (isName : IsName name)
    (allWhite : ∀ character ∈ white, isWhitespace character = true)
    (outside : ∀ character ∈ before.getLast?, OutsideWord character) :
    lastWord (before ++ (name ++ white)) = name := by
  have visible : BeginsVisible (name.reverse ++ before.reverse) := by
    apply beginsVisible_append_of_solid
    · simpa using isName.nonempty
    · intro character member
      exact isName.solid character (List.mem_reverse.mp member)
  rw [lastWord, List.reverse_append, List.reverse_append,
    List.append_assoc, dropWhile_append_of_boundary _ visible,
    takeWhile_append_of_boundary, List.reverse_reverse]
  · intro character member
    exact isName.word character (List.mem_reverse.mp member)
  · intro character isFirst
    rw [List.head?_reverse] at isFirst
    exact outside character isFirst
  · intro character member
    exact allWhite character (List.mem_reverse.mp member)

/-- Nothing before a text could make a word longer when it ends in white space, or
in no character of a word. -/
theorem outside_append_white
    {before white : List Char}
    (allWhite : ∀ character ∈ white, isWhitespace character = true)
    (outside :
      white = [] → ∀ character ∈ before.getLast?, OutsideWord character) :
    ∀ character ∈ (before ++ white).getLast?, OutsideWord character := by
  intro character isLast
  rw [List.getLast?_append, Option.mem_def, Option.or_eq_some_iff] at isLast
  rcases isLast with inWhite | ⟨noWhite, inBefore⟩
  · exact
      isWordCharacter_eq_false_of_isWhitespace
        (allWhite character (List.mem_of_getLast? inWhite))
  · exact
      outside (List.getLast?_eq_none_iff.mp noWhite) character inBefore

/-- What stands on either side of a word is determined, when nothing before it
could make it longer and nothing but white space stands behind it. -/
theorem eq_of_append_word
    {before name white front other behind : List Char}
    (isName : IsName name)
    (otherName : IsName other)
    (allWhite : ∀ character ∈ white, isWhitespace character = true)
    (behindWhite : ∀ character ∈ behind, isWhitespace character = true)
    (outside : ∀ character ∈ before.getLast?, OutsideWord character)
    (frontOutside : ∀ character ∈ front.getLast?, OutsideWord character)
    (same : before ++ (name ++ white) = front ++ (other ++ behind)) :
    before = front ∧ name = other ∧ white = behind := by
  have sameName : name = other := by
    rw [← lastWord_append isName allWhite outside, same,
      lastWord_append otherName behindWhite frontOutside]
  subst sameName
  have pieces :
      (before ++ name) ++ white = (front ++ name) ++ behind := by
    simpa only [List.append_assoc] using same
  rcases
      eq_of_append_white (isName.endsVisible_append before)
        (isName.endsVisible_append front) allWhite behindWhite pieces with
    ⟨upToWord, sameWhite⟩
  exact ⟨List.append_cancel_right upToWord, rfl, sameWhite⟩

namespace DeclarationForm

variable
    {form : DeclarationForm}
    {line : Line}
    {text name raw : List Char}
    {pieces : Language Char}

/-! ## Pieces of the forms -/

/-- What no text of a form but the last goes without. -/
def marks : Language Char :=
  literal "function" + (literal "=>" + literal ":")

theorem holds_marks
    (notMethod : form ≠ method)
    (name raw : List Char) :
    Holds marks (form.language name raw) := by
  have holdsFunction :
      ∀ language, Holds marks (literal "function" * language) :=
    fun language => ((holds_self _).or_left _).mul language
  cases form with
  | function =>
      exact (((holdsFunction gap).mul_left _).mul_left _).mul _
  | constant =>
      have holdsArrow : Holds marks (arrow) :=
        ((((holds_self _).or_left _).or_right _).mul_left _).mul_left _
      have holdsValue : Holds marks (functionValue raw) :=
        (holdsArrow.mul_left _).add (holdsFunction _)
      exact
        ((((holdsValue.mul_left _).mul_left _).mul_left _).mul_left
          _).mul_left _
  | property =>
      have holdsColon : Holds marks (literal ":") :=
        ((holds_self _).or_right _).or_right _
      exact (((holdsColon.mul _).mul_left _).mul_left _).mul_left _
  | method => exact absurd rfl notMethod

/-- Any name. -/
def anyWord : Language Char :=
  { text | IsName text }

/-- The marks before the lists of all forms but the last. -/
def listMarks : List String :=
  ["function", "=", ":"]

/-- A mark that is not missing before the list of any form but the last, and the
white space behind it. -/
def listMark : Language Char :=
  keyword "function" + (literal "=" + literal ":") * spaces

/-- What stands right before the list of any form but the last: a mark, and a
word unless the list belongs to an arrow function. -/
def listLead : Language Char :=
  listMark * optional (anyWord * spaces)

/-- A function value begins with its list, or with a word before it. -/
theorem holds_listLead_functionValue
    {mark : String}
    (isMark : mark.toList ∈ literal "=" + literal ":")
    (raw : List Char) :
    Holds (listLead * literal "(")
      (literal mark * (spaces * functionValue raw)) := by
  rintro _ ⟨_, rfl, _, ⟨white, allWhite, value, isValue, rfl⟩, rfl⟩
  have marked : mark.toList ++ white ∈ listMark :=
    .inr ⟨_, isMark, white, allWhite, rfl⟩
  rcases isValue with
    ⟨_, ⟨rfl, -⟩, behind, -, rfl⟩ |
      ⟨_, rfl, _, ⟨between, betweenWhite, _, ⟨rfl, -⟩, rfl⟩, rfl⟩
  · refine
      ⟨_, ⟨_, ⟨_, marked, [], .inl rfl, rfl⟩, ['('], rfl, rfl⟩,
        [], raw ++ ')' :: behind, ?_⟩
    simp
  · have isWord : "function".toList ++ between ∈ anyWord * spaces :=
      ⟨_, (by decide : IsName _), between, betweenWhite, rfl⟩
    refine
      ⟨_, ⟨_, ⟨_, marked, _, .inr isWord, rfl⟩, ['('], rfl, rfl⟩,
        [], raw ++ [')'], ?_⟩
    simp

/-- No form but the last goes without a mark before its list. -/
theorem holds_listLead
    (notMethod : form ≠ method)
    (name raw : List Char) :
    Holds (listLead * literal "(") (form.language name raw) := by
  cases form with
  | function =>
      rintro _
        ⟨_, ⟨exported, -, _, ⟨async, -, mark, isMark, rfl⟩, rfl⟩, _,
          ⟨word, ⟨rfl, isName⟩, _, ⟨white, allWhite, _, ⟨rfl, -⟩, rfl⟩, rfl⟩,
          rfl⟩
      have isWord : word ++ white ∈ anyWord * spaces :=
        ⟨word, isName, white, allWhite, rfl⟩
      refine
        ⟨_, ⟨_, ⟨mark, .inl isMark, _, .inr isWord, rfl⟩, ['('], rfl, rfl⟩,
          exported ++ async, raw ++ [')'], ?_⟩
      simp
  | constant =>
      have holdsValue := holds_listLead_functionValue (.inl rfl) raw
      exact ((holdsValue.mul_left spaces).mul_left _).mul_left _
  | property =>
      have holdsValue := holds_listLead_functionValue (.inr rfl) raw
      exact ((holdsValue.mul_left spaces).mul_left _).mul_left _
  | method => exact absurd rfl notMethod

theorem endsWith_listMark :
    EndsWith OutsideWord listMark := by
  have whiteOutside :
      ∀ character,
        isWhitespace character = true → OutsideWord character :=
    fun _ => isWordCharacter_eq_false_of_isWhitespace
  have marksEnd :
      EndsWith OutsideWord (literal "=" + literal ":") :=
    (endsWith_literal '=' (by decide) (by decide)).add
      (endsWith_literal ':' (by decide) (by decide))
  exact
    (endsWith_keyword whiteOutside "function").add
      (marksEnd.mul (endsWith_spaces whiteOutside))

theorem exists_of_mem_listMark
    (member : text ∈ listMark) :
    ∃ mark ∈ listMarks, ∃ white,
      text = mark.toList ++ white ∧
        ∀ character ∈ white, isWhitespace character = true := by
  rcases member with
    ⟨_, rfl, white, ⟨-, allWhite⟩, rfl⟩ |
      ⟨_, rfl | rfl, white, allWhite, rfl⟩
  · exact ⟨"function", by decide, white, rfl, allWhite⟩
  · exact ⟨"=", by decide, white, rfl, allWhite⟩
  · exact ⟨":", by decide, white, rfl, allWhite⟩

theorem listMarks_visible :
    ∀ mark ∈ listMarks, mark.toList ≠ [] ∧ EndsVisible mark.toList := by
  decide

/-- Behind a mark a name begins anew. -/
theorem outside_append_listMark
    (member : text ∈ listMark)
    (before : List Char) :
    ∀ character ∈ (before ++ text).getLast?, OutsideWord character := by
  have nonempty : text ≠ [] := by
    rintro rfl
    rcases exists_of_mem_listMark member with ⟨mark, isMark, _, empty, -⟩
    exact
      (listMarks_visible mark isMark).1
        (List.append_eq_nil_iff.mp empty.symm).1
  have isLast := List.getLast?_eq_some_getLast nonempty
  rw [List.getLast?_append, isLast, Option.some_or, ← isLast]
  exact endsWith_listMark text member

/-! ## Lines without a form -/

theorem BeginsAt.exists_infix
    {position : Nat}
    (begins : form.BeginsAt text position name raw) :
    ∃ written ∈ form.language name raw, written <:+: text := by
  rcases begins with ⟨written, member, front⟩
  exact
    ⟨written, member,
      front.isInfix.trans (List.drop_suffix position text).isInfix⟩

/-- A form is not found in a text without the pieces that all its texts hold. -/
theorem leftmost?_reader?_eq_none
    (holds : ∀ name raw, Holds pieces (form.language name raw))
    (absent : ∀ piece ∈ pieces, ¬ piece <:+: text) :
    leftmost? form.reader? text = none := by
  cases read : leftmost? form.reader? text with
  | none => rfl
  | some found =>
      rcases leftmost?_reader?_eq_some_iff.mp read with
        ⟨position, isLeftmost⟩
      rcases isLeftmost.begins.exists_infix with
        ⟨written, member, inText⟩
      rcases holds _ _ written member with ⟨piece, isPiece, inside⟩
      exact absurd (inside.trans inText) (absent piece isPiece)

/-- Without the pieces that every other form holds, only the last form can
declare what a line declares. -/
theorem declaration?_eq_signature?_method
    (holds :
      ∀ form ≠ method, ∀ name raw,
        Holds pieces (form.language name raw))
    (absent : ∀ piece ∈ pieces, ¬ piece <:+: trim line) :
    declaration? line = method.signature? line := by
  have undeclared :
      ∀ form ≠ method, form.signature? line = none := by
    intro form notMethod
    rw [signature?,
      leftmost?_reader?_eq_none (holds form notMethod) absent]
    rfl
  rw [declaration?_eq_findSome?, all, List.findSome?_cons,
    undeclared function (by decide), List.findSome?_cons,
    undeclared constant (by decide), List.findSome?_cons,
    undeclared property (by decide), List.findSome?_singleton]

/-! ## What stands around a name -/

/-- Where a text of a form begins, its name stands behind the lead and before
the rest of the form. -/
theorem BeginsAt.exists_split
    {position : Nat}
    (begins : form.BeginsAt text position name raw) :
    ∃ before written rest,
      text = before ++ (written ++ (name ++ rest)) ∧
        before.length = position ∧
          written ∈ form.lead ∧ Begins (form.tail raw) rest := by
  rcases begins_mul_iff.mp begins with
    ⟨written, isLead, _, behind, wordBegins⟩
  rcases begins_mul_iff.mp wordBegins with
    ⟨_, ⟨rfl, isName⟩, rest, rfl, isTail⟩
  have inside : position ≤ text.length := by
    refine Nat.le_of_not_lt fun beyond => ?_
    rw [List.drop_eq_nil_of_le (Nat.le_of_lt beyond)] at behind
    simp [isName.nonempty] at behind
  refine
    ⟨text.take position, written, rest, ?_,
      List.length_take_of_le inside, isLead, isTail⟩
  rw [← behind, List.take_append_drop]

/-- Where a form begins anywhere, it begins somewhere leftmost. -/
theorem BeginsAt.exists_isLeftmost
    {position : Nat}
    (begins : form.BeginsAt text position name raw) :
    ∃ position name raw, form.IsLeftmost text position name raw := by
  rcases
    exists_leftmost_of_begins
      (fun written : List Char × List Char =>
        form.language written.1 written.2)
      (name, raw) begins with
    ⟨first, ⟨firstName, firstRaw⟩, firstBegins, leftmost⟩
  refine ⟨first, firstName, firstRaw, firstBegins, ?_⟩
  intro earlier otherName otherRaw
  exact leftmost earlier (otherName, otherRaw)

end DeclarationForm

end TestScribe.Header

import TestScribe.Proofs.Header.Member
import TestScribe.Proofs.Header.Modifiers

/-!
# Fronts of methods

A method begins with an access modifier and a row of keyword modifiers, each with
white space after it, behind any indentation.  What is read behind this front as
a member is what the line declares, so a written method with a type is declared
as it is written.  When nothing is read there, and no list is opened by the first
word there, the line declares what the text behind the front declares by itself.
-/

namespace TestScribe.Header

open TestScribe.Source TestScribe.Text Grammar

/-- What is written before the member of a method. -/
structure MethodFront where
  indent : List Char
  modifier : SpacedKeyword
  keywords : List SpacedKeyword
  blank : isBlank indent = true
  isModifier : modifier.keyword ∈ accessModifiers
  areKeywords : ∀ spaced ∈ keywords, spaced.keyword ∈ keywordModifiers

namespace MethodFront

variable
    (front : MethodFront)
    {text : List Char}
    {signature : Signature}

/-- The line with this text behind the front. -/
def before
    (text : List Char) :
    Line :=
  front.indent ++ front.modifier.before (withSpaced front.keywords text)

theorem areNames :
    ∀ spaced ∈ front.keywords, IsName spaced.keyword.toList :=
  fun spaced member =>
    isName_of_mem_keywordModifiers _ (front.areKeywords spaced member)

theorem isName_modifier :
    IsName front.modifier.keyword.toList :=
  isName_of_mem_accessModifiers _ front.isModifier

theorem afterModifier
    (visible : BeginsVisible text) :
    afterAnyKeyword? accessModifiers
        (front.modifier.before (withSpaced front.keywords text)) =
      some (withSpaced front.keywords text) :=
  afterAnyKeyword?_append isName_of_mem_accessModifiers front.isModifier
    front.modifier.nonempty front.modifier.white
    (beginsVisible_withSpaced front.areNames visible)

/-- The member behind the front is what the line declares. -/
theorem method?_before
    (visible : BeginsVisible text)
    (stops : afterAnyKeyword? keywordModifiers text = none)
    (read : member? text = some signature) :
    method? (front.before text) = some signature := by
  have here :
      methodHeader?
          (front.modifier.before (withSpaced front.keywords text)) =
        some signature := by
    rw [methodHeader?, front.afterModifier visible]
    exact
      modifiedMember?_withSpaced front.areKeywords visible stops read
        (length_le_length_withSpaced _ _)
  rw [method?, before,
    leftmost?_methodHeader?_of_white ((isBlank_iff _).mp front.blank)]
  exact leftmost?_of_front here

/-- A type that is no keyword modifier is read as the type. -/
theorem method?_before_of_typed
    {type name raw : List Char}
    (nonempty : type ≠ [])
    (notKeyword : String.ofList type ∉ keywordModifiers)
    (begins : Begins (typed type name raw) text) :
    method? (front.before text) =
      some ((Signature.ofRaw name raw).withReturnType type) := by
  have read := member?_of_typed nonempty begins
  rcases begins_mul_iff.mp begins with
    ⟨_, ⟨rfl, solid⟩, behind, rfl, behindBegins⟩
  have stops :=
    afterAnyKeyword?_of_not_mem isName_of_mem_keywordModifiers solid
      (behindBegins.forall_head? (startsWith_white_typing name raw))
      notKeyword
  exact
    front.method?_before
      (beginsVisible_append_of_solid nonempty solid behind) stops read

end MethodFront

/-- A method with a text for its type as it is written on a line. -/
structure WrittenMethod extends MethodFront where
  type : List Char
  /-- The white space between type and name. -/
  between : List Char
  name : List Char
  /-- The white space before the list, which may be missing. -/
  spaces : List Char
  /-- What stands between the parentheses. -/
  raw : List Char
  /-- What stands behind the list. -/
  rest : List Char
  isGap : between ∈ gap
  isName : IsName name
  blankSpaces : isBlank spaces = true
  noClosing : ')' ∉ raw

namespace WrittenMethod

variable (method : WrittenMethod)

/-- The text from the name on. -/
def fromName : List Char :=
  method.name ++ (method.spaces ++
    '(' :: (method.raw ++ ')' :: method.rest))

/-- The text from the type on. -/
def fromType : List Char :=
  method.type ++ (method.between ++ method.fromName)

/-- The written line. -/
def line : Line :=
  method.before method.fromType

/-- What is written on the line. -/
def declared : Signature where
  name := String.ofList method.name
  parameters := splitParameters (String.ofList method.raw)
  returnType := some (String.ofList method.type)

/-- The line declares what is written when the text for the type is one run of
visible characters, and no keyword modifier. -/
theorem method?_line_of_solid
    (nonempty : method.type ≠ [])
    (solid : ∀ character ∈ method.type, isWhitespace character = false)
    (notKeyword : String.ofList method.type ∉ keywordModifiers) :
    method? method.line = some method.declared := by
  have begins :
      Begins (typed method.type method.name method.raw) method.fromType :=
    begins_typed solid method.isGap method.isName
      ((isBlank_iff _).mp method.blankSpaces) method.noClosing method.rest
  exact method.method?_before_of_typed nonempty notKeyword begins

end WrittenMethod

/-! ## Rows without a member -/

/-- No member begins here, nor a list that would make a name of the word before. -/
structure HasNoMember
    (text : List Char) : Prop where
  visible : BeginsVisible text
  noOpening : ∀ character ∈ text.head?, character ≠ '('
  noName : namedParameters? text = none
  untyped : ∀ run name raw, ¬ Begins (typed run name raw) text

section HasNoMember

variable
    {spaced : SpacedKeyword}
    {keywords : List SpacedKeyword}
    {text : List Char}

theorem HasNoMember.member?_eq_none
    (hasNone : HasNoMember text) :
    member? text = none := by
  rw [member?_of_untyped hasNone.untyped, untypedMember?, hasNone.noName]
  rfl

/-- A keyword is no name with a list when no list is opened behind it. -/
theorem HasNoMember.namedParameters?_before
    (hasNone : HasNoMember text)
    (isName : IsName spaced.keyword.toList) :
    namedParameters? (spaced.before text) = none := by
  have boundary :
      ∀ character ∈ (spaced.spaces ++ text).head?,
        OutsideWord character :=
    fun character isFirst =>
      isWordCharacter_eq_false_of_isWhitespace
        (spaced.gap_after_keyword text character isFirst)
  have unread : parenthesized? text = none := by
    cases read : parenthesized? text with
    | none => rfl
    | some found =>
        rcases parenthesized?_eq_some_iff.mp read with ⟨rfl, -⟩
        exact absurd rfl (hasNone.noOpening '(' rfl)
  rw [namedParameters?, SpacedKeyword.before,
    word?_append isName boundary]
  simp only [Option.bind_eq_bind, Option.bind_some,
    afterSpaces_append spaced.white hasNone.visible, unread,
    Option.bind_none]

/-- A keyword before it adds no member: it is neither a type nor a name. -/
theorem HasNoMember.before
    (hasNone : HasNoMember text)
    (isName : IsName spaced.keyword.toList) :
    HasNoMember (spaced.before text) := by
  constructor
  case visible => exact isName.beginsVisible_append _
  case noOpening =>
    have plain :
        ∀ character ∈ spaced.keyword.toList, character ≠ '(' := by
      rintro character member rfl
      exact isName.not_mem (by decide) member
    exact forall_mem_head?_append isName.nonempty plain _
  case noName => exact hasNone.namedParameters?_before isName
  case untyped =>
    intro run name raw
    rcases List.exists_cons_of_ne_nil spaced.nonempty with
      ⟨space, others, spacesEq⟩
    have white := spaced.white
    rw [spacesEq, List.forall_mem_cons] at white
    have behind : afterSpaces (others ++ text) = text :=
      afterSpaces_append white.2 hasNone.visible
    rw [SpacedKeyword.before, spacesEq, List.cons_append]
    exact
      not_begins_typed_of_gap isName.solid white.1
        (behind.symm ▸ hasNone.noName)

theorem HasNoMember.withSpaced
    (hasNone : HasNoMember text)
    (areNames : ∀ spaced ∈ keywords, IsName spaced.keyword.toList) :
    HasNoMember (withSpaced keywords text) := by
  induction keywords with
  | nil => exact hasNone
  | cons spaced others ih =>
      have behind :=
        ih fun other member =>
          areNames other (List.mem_cons_of_mem _ member)
      exact behind.before (areNames spaced List.mem_cons_self)

/-- However many keywords are read as such, no member is found in the row. -/
theorem HasNoMember.modifiedMember?_withSpaced
    (hasNone : HasNoMember text)
    (areKeywords :
      ∀ spaced ∈ keywords, spaced.keyword ∈ keywordModifiers)
    (stops : afterAnyKeyword? keywordModifiers text = none)
    (rounds : Nat) :
    modifiedMember? rounds (Header.withSpaced keywords text) = none := by
  have areNames :
      ∀ spaced ∈ keywords, IsName spaced.keyword.toList :=
    fun spaced member =>
      isName_of_mem_keywordModifiers _ (areKeywords spaced member)
  -- What is tried once nothing was found behind the first keyword.
  have here := (hasNone.withSpaced areNames).member?_eq_none
  induction keywords generalizing rounds with
  | nil =>
      cases rounds with
      | zero => exact here
      | succ rounds =>
          rw [Header.withSpaced, List.foldr_nil, modifiedMember?, stops]
          exact hasNone.member?_eq_none
  | cons spaced others ih =>
      cases rounds with
      | zero => exact here
      | succ rounds =>
          rw [List.forall_mem_cons] at areKeywords areNames
          have read :
              afterAnyKeyword? keywordModifiers
                  (Header.withSpaced (spaced :: others) text) =
                some (Header.withSpaced others text) :=
            afterAnyKeyword?_append isName_of_mem_keywordModifiers
              areKeywords.1 spaced.nonempty spaced.white
              (beginsVisible_withSpaced areNames.2 hasNone.visible)
          have later :=
            ih areKeywords.2 rounds areNames.2
              (hasNone.withSpaced areNames.2).member?_eq_none
          rw [modifiedMember?, read]
          simp only [later, here, Option.none_or]

end HasNoMember

/-! ## Fronts without a member -/

namespace MethodFront

variable
    (front : MethodFront)
    {text : List Char}

/-- No method begins among the keywords. -/
theorem leftmost?_methodHeader?_withSpaced
    {keywords : List SpacedKeyword}
    (areKeywords :
      ∀ spaced ∈ keywords, spaced.keyword ∈ keywordModifiers) :
    leftmost? methodHeader? (withSpaced keywords text) =
      leftmost? methodHeader? text := by
  induction keywords with
  | nil => rfl
  | cons spaced others ih =>
      rw [List.forall_mem_cons] at areKeywords
      rw [← ih areKeywords.2, withSpaced, List.foldr_cons]
      apply spaced.leftmost?_methodHeader?_before
      intro behind isTail _
      exact
        spaced.methodHeader?_eq_none
          (isName_of_mem_keywordModifiers _ areKeywords.1) isTail
          (ofList_not_mem_accessModifiers_of_keyword _ areKeywords.1 _
            isTail)

/-- Without a member behind the front, the line declares what is found behind the
front. -/
theorem method?_before_of_hasNoMember
    (hasNone : HasNoMember text)
    (stops : afterAnyKeyword? keywordModifiers text = none) :
    method? (front.before text) = method? text := by
  rw [method?, before,
    leftmost?_methodHeader?_of_white ((isBlank_iff _).mp front.blank),
    front.modifier.leftmost?_methodHeader?_before,
    leftmost?_methodHeader?_withSpaced front.areKeywords]
  · rfl
  · -- A row is read behind the whole modifier, and nothing behind a part of it.
    intro behind isTail _
    by_cases whole : behind = front.modifier.keyword.toList
    · have read := front.afterModifier hasNone.visible
      rw [SpacedKeyword.before, ← whole] at read
      rw [methodHeader?, read]
      exact
        hasNone.modifiedMember?_withSpaced front.areKeywords stops _
    · exact
        front.modifier.methodHeader?_eq_none front.isName_modifier isTail
          (ofList_not_mem_accessModifiers_of_modifier _ front.isModifier _
            isTail whole)

end MethodFront

end TestScribe.Header

import TestScribe.Proofs.Header.MethodFront
import TestScribe.Proofs.Header.Signature

/-!
# Types with brackets

A type may be written with angle brackets, and between them with white space.
Only a type without white space is one run of visible characters, and declared as
it is written.  White space in a type has a bracket before it that is opened and
a bracket behind it that is closed.  The first belongs to no name, so the text up
to the white space is not read as a name with a list.  The second does not
either, so the text up to the white space is no type of what follows.  So nothing
is read behind the front of the method, and what the line declares, if anything,
is another method in the text from the type on.
-/

namespace TestScribe.Header

open TestScribe.Source TestScribe.Text Grammar

/-- A character of a type that is no bracket. -/
def isBareTypeCharacter (character : Char) : Bool :=
  isWordCharacter character || ['.', '[', ']', '?', ','].contains character

/-- The text of a type, with balanced angle brackets and with white space only
between them. -/
inductive IsTypeText : (inBrackets : Bool) → List Char → Prop where
  | empty {inBrackets : Bool} :
      IsTypeText inBrackets []
  | character {inBrackets : Bool} {character : Char} {rest : List Char}
      (isBare : isBareTypeCharacter character = true)
      (isRest : IsTypeText inBrackets rest) :
      IsTypeText inBrackets (character :: rest)
  | space {space : Char} {rest : List Char}
      (white : isWhitespace space = true)
      (isRest : IsTypeText true rest) :
      IsTypeText true (space :: rest)
  | brackets {inBrackets : Bool} {inner rest : List Char}
      (isInner : IsTypeText true inner)
      (isRest : IsTypeText inBrackets rest) :
      IsTypeText inBrackets ('<' :: (inner ++ '>' :: rest))

theorem isWhitespace_eq_false_of_isBareTypeCharacter
    {character : Char}
    (isBare : isBareTypeCharacter character = true) :
    isWhitespace character = false := by
  rw [isBareTypeCharacter, Bool.or_eq_true, List.contains_iff_mem]
    at isBare
  rcases isBare with word | mark
  · exact isWhitespace_eq_false_of_isWordCharacter word
  · simp only [List.mem_cons, List.not_mem_nil, or_false] at mark
    rcases mark with rfl | rfl | rfl | rfl | rfl <;> decide

section IsTypeText

variable
    {inBrackets : Bool}
    {text before behind : List Char}

theorem IsTypeText.opening_not_mem
    (isType : IsTypeText inBrackets text) :
    '(' ∉ text := by
  induction isType with
  | empty => exact List.not_mem_nil
  | character isBare _ ih =>
      rw [List.mem_cons, not_or]
      refine ⟨?_, ih⟩
      rintro rfl
      exact absurd isBare (by decide)
  | space white _ ih =>
      rw [List.mem_cons, not_or]
      refine ⟨?_, ih⟩
      rintro rfl
      exact absurd white (by decide)
  | brackets _ _ innerIh restIh =>
      simp only [List.mem_cons, List.mem_append, not_or]
      exact ⟨by decide, innerIh, by decide, restIh⟩

/-- A run without brackets and white space before a type. -/
theorem IsTypeText.run
    (run : List Char)
    (areBare : run.all isBareTypeCharacter = true)
    (isType : IsTypeText inBrackets text) :
    IsTypeText inBrackets (run ++ text) := by
  induction run with
  | nil => exact isType
  | cons character run ih =>
      rw [List.all_cons, Bool.and_eq_true] at areBare
      exact .character areBare.1 (ih areBare.2)

/-- White space in a type stands between brackets. -/
theorem IsTypeText.brackets_mem
    {space : Char}
    (isType : IsTypeText inBrackets text)
    (outermost : inBrackets = false)
    (split : text = before ++ space :: behind)
    (white : isWhitespace space = true) :
    '<' ∈ before ∧ '>' ∈ behind := by
  induction isType generalizing before with
  | empty => exact absurd split (by simp)
  | @character _ character rest isBare _ ih =>
      cases before with
      | nil =>
          rw [List.nil_append, List.cons.injEq] at split
          rw [← split.1,
            isWhitespace_eq_false_of_isBareTypeCharacter isBare] at white
          exact nomatch white
      | cons _ before =>
          rw [List.cons_append, List.cons.injEq] at split
          rcases ih outermost split.2 with ⟨opening, closing⟩
          exact ⟨List.mem_cons_of_mem _ opening, closing⟩
  | space => exact nomatch outermost
  | @brackets _ inner rest _ _ _ ih =>
      cases before with
      | nil =>
          rw [List.nil_append, List.cons.injEq] at split
          rw [← split.1] at white
          exact absurd white (by decide)
      | cons _ before =>
          rw [List.cons_append, List.cons.injEq] at split
          rw [← split.1]
          refine ⟨List.mem_cons_self, ?_⟩
          rcases append_cons_eq_append_cons split.2 with
            ⟨-, isClosing, -⟩ | ⟨between, -, restEq⟩ | ⟨between, -, behindEq⟩
          · rw [← isClosing] at white
            exact absurd white (by decide)
          · exact (ih outermost restEq).2
          · rw [behindEq]
            exact List.mem_append_cons_self

end IsTypeText

/-- A written method with a type that may have brackets. -/
structure GenericMethod extends WrittenMethod where
  nonempty : type ≠ []
  isType : IsTypeText false type
  notKeyword : String.ofList type ∉ keywordModifiers

namespace GenericMethod

variable
    (method : GenericMethod)

/-- White space in the type stands behind an opening bracket and before a closing
one, neither of which has a parenthesis before it. -/
theorem exists_split
    (spaced : ∃ character ∈ method.type, isWhitespace character = true) :
    ∃ before space inner behind,
      method.fromType = before ++ space :: (inner ++ '>' :: behind) ∧
        isWhitespace space = true ∧
          (∀ character ∈ before, isWhitespace character = false) ∧
            '<' ∈ before ∧ '(' ∉ before ∧ '(' ∉ inner := by
  rcases exists_first_white spaced with
    ⟨before, space, rest, typeEq, white, solid⟩
  rcases method.isType.brackets_mem rfl typeEq white with
    ⟨opening, closing⟩
  rcases List.append_of_mem closing with ⟨inner, behind, rfl⟩
  have noOpening := method.isType.opening_not_mem
  simp only [typeEq, List.mem_append, List.mem_cons, not_or] at noOpening
  refine
    ⟨before, space, inner, behind ++ (method.between ++ method.fromName),
      ?_, white, solid, opening, noOpening.1, noOpening.2.2.1⟩
  rw [WrittenMethod.fromType, typeEq]
  simp only [List.append_assoc, List.cons_append]

/-- A type with white space is no type of what follows, and no keyword is read in
front of it. -/
theorem hasNoMember
    (spaced : ∃ character ∈ method.type, isWhitespace character = true) :
    HasNoMember method.fromType ∧
      afterAnyKeyword? keywordModifiers method.fromType = none := by
  rcases method.exists_split spaced with
    ⟨before, space, inner, behind, fromTypeEq, white, solid, opening,
      noOpening, innerPlain⟩
  rw [fromTypeEq]
  have nonempty : before ≠ [] := List.ne_nil_of_mem opening
  have notKeyword : String.ofList before ∉ keywordModifiers := by
    intro member
    have isName := isName_of_mem_keywordModifiers _ member
    rw [String.toList_ofList] at isName
    exact isName.not_mem (by decide) opening
  refine ⟨?_, ?_⟩
  · constructor
    case visible => exact beginsVisible_append_of_solid nonempty solid _
    case noOpening =>
      have plain : ∀ character ∈ before, character ≠ '(' := by
        rintro character member rfl
        exact noOpening member
      exact forall_mem_head?_append nonempty plain _
    case noName =>
      rcases List.append_of_mem opening with ⟨front, others, rfl⟩
      rw [List.mem_append, not_or] at noOpening
      rw [List.append_assoc]
      exact
        namedParameters?_append_cons_eq_none noOpening.1 (by decide)
          (by decide) (by decide) _
    case untyped =>
      intro run name raw
      exact
        not_begins_typed_of_stop solid white innerPlain (by decide)
          (by decide) (by decide) behind
  · apply
      afterAnyKeyword?_of_not_mem isName_of_mem_keywordModifiers solid _
        notKeyword
    apply forall_mem_head?_cons
    exact white

/-- The line then declares what the text from the type on declares. -/
theorem method?_line_of_spaced
    (spaced : ∃ character ∈ method.type, isWhitespace character = true) :
    method? method.line = method? method.fromType := by
  have nothing := method.hasNoMember spaced
  exact method.method?_before_of_hasNoMember nothing.1 nothing.2

end GenericMethod

/--
A written method is declared with its type when the type holds no white space.
Otherwise the line declares what the text from the type on declares, which is
nothing when no access modifier stands in it, and nothing has the written type.
-/
theorem generic_method_declared
    (method : GenericMethod) :
    ((∀ character ∈ method.type, isWhitespace character = false) →
      method? method.line =
        some
          ⟨String.ofList method.name,
            splitParameters (String.ofList method.raw),
            some (String.ofList method.type)⟩) ∧
      ((∃ character ∈ method.type, isWhitespace character = true) →
        method? method.line = method? method.fromType ∧
          ((∀ modifier ∈ accessModifiers,
              ¬ modifier.toList <:+: method.fromType) →
            method? method.line = none) ∧
          ∀ signature, method? method.line = some signature →
            signature.returnType ≠ some (String.ofList method.type)) := by
  constructor
  · intro solid
    exact
      method.method?_line_of_solid method.nonempty solid method.notKeyword
  · intro spaced
    have same := method.method?_line_of_spaced spaced
    refine ⟨same, ?_, ?_⟩
    · intro noModifier
      rw [same, Option.eq_none_iff_forall_ne_some]
      intro signature declared
      rcases exists_modifier_of_method? declared with
        ⟨modifier, member, inside⟩
      exact noModifier modifier member inside
    · rintro signature declared isWritten
      rcases (isMethodOf_of_method? declared).typed with
        ⟨type, typeEq, isVisible⟩
      rw [isWritten, Option.some.injEq, String.ofList_inj]
        at typeEq
      rcases spaced with ⟨space, member, white⟩
      rw [isVisible.solid space (typeEq ▸ member)] at white
      exact nomatch white

/-- Brackets inside of brackets, and a space between brackets. -/
theorem generic_method_declared_nested :
    method? "private static Map<K,List<?>> groups(int a, K k) \x7b".toList =
        some ⟨"groups", ["int a", "K k"], some "Map<K,List<?>>"⟩ ∧
      method? "private static Map<K, V[]> groups(int a, K k) \x7b".toList =
        none := by
  have nestedType : IsTypeText false "Map<K,List<?>>".toList :=
    .run "Map".toList (by decide)
      (.brackets
        (.run "K,List".toList (by decide)
          (.brackets (.character (by decide) .empty) .empty))
        .empty)
  have spacedType : IsTypeText false "Map<K, V[]>".toList :=
    .run "Map".toList (by decide)
      (.brackets
        (.run "K,".toList (by decide)
          (.space (by decide) (.run "V[]".toList (by decide) .empty)))
        .empty)
  let front : MethodFront :=
    ⟨[], .ofKeyword "private", [.ofKeyword "static"], by decide,
      by decide, by decide⟩
  let nested : WrittenMethod :=
    ⟨front, "Map<K,List<?>>".toList, [' '], "groups".toList, [],
      "int a, K k".toList, [' ', '{'], by decide, by decide, by decide,
      by decide⟩
  let spaced : WrittenMethod :=
    ⟨front, "Map<K, V[]>".toList, [' '], "groups".toList, [],
      "int a, K k".toList, [' ', '{'], by decide, by decide, by decide,
      by decide⟩
  have nestedLine :
      nested.line =
        "private static Map<K,List<?>> groups(int a, K k) \x7b".toList := by
    decide
  have spacedLine :
      spaced.line =
        "private static Map<K, V[]> groups(int a, K k) \x7b".toList := by
    decide
  have parameters : splitParameters "int a, K k" = ["int a", "K k"] := by
    decide
  have visible : IsVisibleType nested.type := by
    decide
  have hasSpace :
      ∃ character ∈ spaced.type, isWhitespace character = true :=
    ⟨' ', by decide, by decide⟩
  have noModifier :
      ∀ modifier ∈ accessModifiers,
        ¬ modifier.toList <:+: spaced.fromType := by
    decide
  rw [← nestedLine, ← spacedLine, ← parameters]
  constructor
  · exact
      (generic_method_declared
        ⟨nested, by decide, nestedType, by decide⟩).1 visible.solid
  · exact
      ((generic_method_declared
        ⟨spaced, by decide, spacedType, by decide⟩).2 hasSpace).2.1
          noModifier

/-- A type with a space between its brackets is not declared, and a keyword is read
as such and not as a type. -/
theorem spaced_or_keyword_type_undeclared :
    (∃ method : GenericMethod,
      method.line =
          "public Map<String, Integer> counts(int a) \x7b".toList ∧
        method? method.line = none) ∧
      IsTypeText false "static".toList ∧
        method? "public static get(int a) \x7b".toList =
          some ⟨"get", ["int a"], some "void"⟩ := by
  have spacedType : IsTypeText false "Map<String, Integer>".toList :=
    .run "Map".toList (by decide)
      (.brackets
        (.run "String,".toList (by decide)
          (.space (by decide)
            (.run "Integer".toList (by decide) .empty)))
        .empty)
  let spaced : WrittenMethod :=
    ⟨⟨[], .ofKeyword "public", [], by decide, by decide, by decide⟩,
      "Map<String, Integer>".toList, [' '], "counts".toList, [],
      "int a".toList, [' ', '{'], by decide, by decide, by decide,
      by decide⟩
  have undeclared :
      spaced.line =
          "public Map<String, Integer> counts(int a) \x7b".toList ∧
        method? spaced.line = none := by
    decide
  have keywordType : IsTypeText false "static".toList :=
    .run "static".toList (by decide) .empty
  have keywordRead :
      method? "public static get(int a) \x7b".toList =
        some ⟨"get", ["int a"], some "void"⟩ := by
    decide
  exact
    ⟨⟨⟨spaced, by decide, spacedType, by decide⟩, undeclared⟩,
      keywordType, keywordRead⟩

end TestScribe.Header

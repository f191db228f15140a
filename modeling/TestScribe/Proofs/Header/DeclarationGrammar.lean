import TestScribe.Header.Declaration
import TestScribe.Proofs.Header.Grammar
import TestScribe.Proofs.Header.Keyword

/-!
# The grammar of declarations

The four forms of a declaration as languages, each with a name and the raw text
of the parameters.  A form's reader succeeds exactly where a text of the form
begins, so a line declares what the leftmost text of the first form says whose
name is no control keyword.  The name found there is a whole word: before it
stands white space that belongs to the form, or else nothing that could have
made the name longer, since the form would then have begun earlier.
-/

namespace TestScribe.Header

open TestScribe.Source TestScribe.Text Grammar

/-! ## The forms as languages -/

namespace Grammar

/-- A type before an arrow. -/
def arrowType : Language Char :=
  { typing | '=' ∉ typing }

/-- What makes a parameter list an arrow function: a type, which may be missing,
and the arrow. -/
def arrow : Language Char :=
  optional (spaces * (literal ":" * arrowType)) *
    (spaces * literal "=>")

/-- A function value with these raw parameters, written either way. -/
def functionValue
    (raw : List Char) :
    Language Char :=
  parameterList raw * arrow +
    literal "function" * (spaces * parameterList raw)

/-- A type before the body of a method. -/
def methodType : Language Char :=
  { typing |
    typing ≠ [] ∧
      ∀ character ∈ typing, character ∉ ['(', ')', '{', '}', ';', '='] }

/-- What makes a parameter list a method: a type, which may be missing, and a
brace. -/
def body : Language Char :=
  optional (spaces * (literal ":" * (spaces * methodType))) *
    (spaces * literal "\x7b")

end Grammar

/-- The forms of a declaration. -/
inductive DeclarationForm where
  | function
  | constant
  | property
  | method
  deriving DecidableEq

namespace DeclarationForm

/-- The place of a form in the order in which they are tried. -/
def priority : DeclarationForm → Nat
  | .function => 1
  | .constant => 2
  | .property => 3
  | .method => 4

/-- What stands before the name. -/
def lead : DeclarationForm → Language Char
  | .function =>
      optional (keyword "export") *
        (optional (keyword "async") * keyword "function")
  | .constant => optional (keyword "export") * keyword "const"
  | .property => 1
  | .method => optional (keyword "async")

/-- What stands after the name, with these raw parameters in it. -/
def tail
    (form : DeclarationForm)
    (raw : List Char) :
    Language Char :=
  match form with
  | .function => spaces * parameterList raw
  | .constant => spaces * (literal "=" * (spaces * functionValue raw))
  | .property => spaces * (literal ":" * (spaces * functionValue raw))
  | .method => spaces * (parameterList raw * body)

/-- The texts of a form with this name and these raw parameters. -/
def language
    (form : DeclarationForm)
    (name raw : List Char) :
    Language Char :=
  form.lead * (word name * form.tail raw)

/-- A text of the form begins at this position. -/
def BeginsAt
    (form : DeclarationForm)
    (text : List Char)
    (position : Nat)
    (name raw : List Char) : Prop :=
  Begins (form.language name raw) (text.drop position)

/-- A text of the form begins at this position, and none begins before it. -/
structure IsLeftmost
    (form : DeclarationForm)
    (text : List Char)
    (position : Nat)
    (name raw : List Char) : Prop where
  begins : form.BeginsAt text position name raw
  leftmost :
    ∀ earlier otherName otherRaw,
      form.BeginsAt text earlier otherName otherRaw → position ≤ earlier

/-- The leftmost text of the form on the trimmed line has the signature's name,
which is no control keyword, and its parameters. -/
def Declares
    (form : DeclarationForm)
    (line : Line)
    (signature : Signature) : Prop :=
  ∃ position name raw,
    form.IsLeftmost (trim line) position name raw ∧
      String.ofList name ∉ controlKeywords ∧
        signature =
          ⟨String.ofList name, splitParameters (String.ofList raw), none⟩

end DeclarationForm

/-! ## Function values -/

section FunctionValue

variable
    {text raw : List Char}

theorem begins_arrowType_mul_iff :
    Begins (arrowType * (spaces * literal "=>")) text ↔
      ∃ rest,
        afterText? "=>" (text.dropWhile (· != '=')) = some rest := by
  constructor
  · intro begins
    rcases begins_mul_iff.mp begins with
      ⟨typing, noEquals, _, rfl, beginsSpaces⟩
    rcases begins_mul_iff.mp beginsSpaces with
      ⟨white, allWhite, _, rfl, beginsArrow⟩
    rcases begins_literal_iff.mp beginsArrow with ⟨rest, arrowRead⟩
    have noEqualsBefore :
        ∀ character ∈ typing ++ white, (character != '=') = true := by
      intro character member
      rw [bne_iff_ne]
      rintro rfl
      rcases List.mem_append.mp member with inTyping | inWhite
      · exact noEquals inTyping
      · exact absurd (allWhite _ inWhite) (by decide)
    refine ⟨rest, ?_⟩
    rw [← List.append_assoc,
      dropWhile_append_of_boundary noEqualsBefore, arrowRead]
    rw [afterText?_eq_some_iff.mp arrowRead]
    exact forall_mem_head?_cons (by decide) _
  · rintro ⟨rest, arrowRead⟩
    rw [begins_mul_iff]
    refine
      ⟨text.takeWhile (· != '='), ?_, text.dropWhile (· != '='),
        List.takeWhile_append_dropWhile.symm, ?_⟩
    · intro member
      exact nomatch List.mem_takeWhile_imp member
    · rw [begins_mul_iff]
      exact
        ⟨[], List.forall_mem_nil _, _, rfl,
          begins_literal_iff.mpr ⟨rest, arrowRead⟩⟩

theorem begins_arrow_iff :
    Begins arrow text ↔
      ∃ rest,
        afterText? "=>"
          (match afterSpaces text with
            | ':' :: typing => typing.dropWhile (· != '=')
            | _ => afterSpaces text) = some rest := by
  have arrowVisible : StartsWith Visible (literal "=>") :=
    startsWith_literal '=' (by decide) (by decide)
  have colonVisible :
      StartsWith Visible
        (literal ":" * (arrowType * (spaces * literal "=>"))) :=
    (startsWith_literal ':' (by decide) (by decide)).mul _
  rw [arrow, begins_optional_mul_iff, begins_spaces_mul_iff arrowVisible,
    mul_assoc, mul_assoc, begins_spaces_mul_iff colonVisible,
    begins_literal_iff, begins_literal_mul_iff]
  simp only [begins_arrowType_mul_iff]
  generalize afterSpaces text = spaced
  split
  · next typing =>
    constructor
    · rintro (⟨_, read⟩ | ⟨_, read, arrowRead⟩)
      · exact nomatch read
      · cases read
        exact arrowRead
    · intro arrowRead
      exact .inr ⟨typing, rfl, arrowRead⟩
  · next notColon =>
    constructor
    · rintro (arrowRead | ⟨typing, read, -⟩)
      · exact arrowRead
      · exact absurd (afterText?_eq_some_iff.mp read) (notColon typing)
    · exact .inl

theorem arrowParameters?_eq_some_iff :
    arrowParameters? text = some raw ↔
      Begins (parameterList raw * arrow) text := by
  simp only [begins_parameterList_mul_iff, begins_arrow_iff,
    arrowParameters?, Option.bind_eq_bind, Option.bind_eq_some_iff,
    Prod.exists]
  constructor
  · rintro ⟨_, behind, listRead, rest, arrowRead, found⟩
    cases found
    exact ⟨behind, listRead, rest, arrowRead⟩
  · rintro ⟨behind, listRead, rest, arrowRead⟩
    exact ⟨raw, behind, listRead, rest, arrowRead, rfl⟩

theorem anonymousParameters?_eq_some_iff :
    anonymousParameters? text = some raw ↔
      Begins (literal "function" * (spaces * parameterList raw)) text := by
  have listVisible : StartsWith Visible (parameterList raw) :=
    startsWith_parameterList (by decide) raw
  simp only [begins_literal_mul_iff, begins_spaces_mul_iff listVisible,
    begins_parameterList_iff, anonymousParameters?,
    Option.bind_eq_bind, Option.bind_eq_some_iff, Prod.exists]
  constructor
  · rintro ⟨behind, keywordRead, _, rest, listRead, found⟩
    cases found
    exact ⟨behind, keywordRead, rest, listRead⟩
  · rintro ⟨behind, keywordRead, rest, listRead⟩
    exact ⟨behind, keywordRead, raw, rest, listRead, rfl⟩

/-- The two ways of writing a function value begin differently. -/
theorem arrowParameters?_eq_none_of_anonymousParameters?
    (read : anonymousParameters? text = some raw) :
    arrowParameters? text = none := by
  rw [anonymousParameters?_eq_some_iff] at read
  cases other : arrowParameters? text with
  | none => rfl
  | some otherRaw =>
      rw [arrowParameters?_eq_some_iff] at other
      have keywordStarts :
          StartsWith (isWordCharacter · = true)
            (literal "function" * (spaces * parameterList raw)) :=
        (startsWith_literal 'f' (by decide) (by decide)).mul _
      have listStarts :
          StartsWith OutsideWord (parameterList otherRaw * arrow) :=
        (startsWith_parameterList (by decide) otherRaw).mul _
      rcases read.head? keywordStarts with ⟨character, isFirst, isWord⟩
      have isOutside : isWordCharacter character = false :=
        other.forall_head? listStarts character isFirst
      rw [isWord] at isOutside
      exact nomatch isOutside

theorem functionValueParameters?_eq_some_iff :
    functionValueParameters? text = some raw ↔
      Begins (functionValue raw) text := by
  rw [functionValueParameters?, Option.or_eq_some_iff, functionValue,
    begins_add_iff, arrowParameters?_eq_some_iff,
    ← anonymousParameters?_eq_some_iff]
  constructor
  · rintro (arrowRead | ⟨-, anonymousRead⟩)
    · exact .inl arrowRead
    · exact .inr anonymousRead
  · rintro (arrowRead | anonymousRead)
    · exact .inl arrowRead
    · exact
        .inr
          ⟨arrowParameters?_eq_none_of_anonymousParameters? anonymousRead,
            anonymousRead⟩

theorem startsWith_functionValue
    {property : Char → Prop}
    (opening : property '(')
    (initial : property 'f')
    (raw : List Char) :
    StartsWith property (functionValue raw) :=
  ((startsWith_parameterList opening raw).mul _).add
    ((startsWith_literal 'f' (by decide) initial).mul _)

end FunctionValue

/-! ## Bodies of methods -/

section Body

variable
    {text : List Char}

theorem isTypeCharacter_iff
    (character : Char) :
    isTypeCharacter character = true ↔
      character ∉ ['(', ')', '{', '}', ';', '='] := by
  simp [isTypeCharacter]

theorem isTypeCharacter_of_isWhitespace
    {character : Char}
    (white : isWhitespace character = true) :
    isTypeCharacter character = true := by
  rw [isTypeCharacter_iff]
  intro member
  have allVisible :
      ['(', ')', '{', '}', ';', '='].all (!isWhitespace ·) = true := by
    decide
  have visible := List.all_eq_true.mp allVisible character member
  rw [white] at visible
  exact nomatch visible

theorem begins_methodType_mul_iff :
    Begins (spaces * (methodType * (spaces * literal "\x7b"))) text ↔
      text.takeWhile isTypeCharacter ≠ [] ∧
        ∃ rest, text.dropWhile isTypeCharacter = '{' :: rest := by
  constructor
  · intro begins
    rcases begins_mul_iff.mp begins with
      ⟨before, whiteBefore, _, rfl, beginsType⟩
    rcases begins_mul_iff.mp beginsType with
      ⟨typing, ⟨nonempty, solid⟩, _, rfl, beginsSpaces⟩
    rcases begins_mul_iff.mp beginsSpaces with
      ⟨after, whiteAfter, _, rfl, beginsBrace⟩
    rcases begins_literal_iff.mp beginsBrace with ⟨rest, braceRead⟩
    rw [afterText?_eq_some_iff.mp braceRead]
    have inside :
        ∀ character ∈ before ++ (typing ++ after),
          isTypeCharacter character = true := by
      simp only [List.forall_mem_append]
      exact
        ⟨fun _ member =>
            isTypeCharacter_of_isWhitespace (whiteBefore _ member),
          fun _ member => (isTypeCharacter_iff _).mpr (solid _ member),
          fun _ member =>
            isTypeCharacter_of_isWhitespace (whiteAfter _ member)⟩
    have boundary :
        ∀ character ∈ ("\x7b".toList ++ rest).head?,
          isTypeCharacter character = false :=
      forall_mem_head?_cons (by decide) rest
    have pieces :
        before ++ (typing ++ (after ++ ("\x7b".toList ++ rest))) =
          (before ++ (typing ++ after)) ++ ("\x7b".toList ++ rest) := by
      simp only [List.append_assoc]
    rw [pieces, takeWhile_append_of_boundary inside boundary,
      dropWhile_append_of_boundary inside boundary]
    refine ⟨?_, rest, rfl⟩
    simp [nonempty]
  · rintro ⟨nonempty, rest, dropped⟩
    rw [begins_mul_iff]
    refine ⟨[], List.forall_mem_nil _, text, rfl, ?_⟩
    rw [begins_mul_iff]
    refine
      ⟨text.takeWhile isTypeCharacter, ⟨nonempty, ?_⟩,
        text.dropWhile isTypeCharacter,
        List.takeWhile_append_dropWhile.symm, ?_⟩
    · intro character member
      exact
        (isTypeCharacter_iff character).mp
          (List.mem_takeWhile_imp member)
    · rw [begins_mul_iff]
      exact
        ⟨[], List.forall_mem_nil _, _, rfl,
          begins_literal_iff.mpr
            ⟨rest, afterText?_eq_some_iff.mpr dropped⟩⟩

theorem begins_body_iff :
    Begins body text ↔ opensBody text = true := by
  have braceVisible : StartsWith Visible (literal "\x7b") :=
    startsWith_literal '{' (by decide) (by decide)
  have colonVisible :
      StartsWith Visible
        (literal ":" *
          (spaces * methodType * (spaces * literal "\x7b"))) :=
    (startsWith_literal ':' (by decide) (by decide)).mul _
  rw [body, begins_optional_mul_iff, begins_spaces_mul_iff braceVisible,
    mul_assoc, mul_assoc, begins_spaces_mul_iff colonVisible,
    begins_literal_iff, begins_literal_mul_iff]
  simp only [mul_assoc, begins_methodType_mul_iff, opensBody]
  generalize afterSpaces text = spaced
  split
  · next rest =>
    exact ⟨fun _ => rfl, fun _ => .inl ⟨rest, rfl⟩⟩
  · next typing =>
    rw [Bool.and_eq_true, Bool.not_eq_true', List.isEmpty_eq_false_iff,
      beq_iff_eq, List.head?_eq_some_iff]
    constructor
    · rintro (⟨_, read⟩ | ⟨_, read, braceRead⟩)
      · exact nomatch read
      · cases read
        exact braceRead
    · intro braceRead
      exact .inr ⟨typing, rfl, braceRead⟩
  · next notBrace notColon =>
    constructor
    · rintro (⟨rest, read⟩ | ⟨typing, read, -⟩)
      · exact absurd (afterText?_eq_some_iff.mp read) (notBrace rest)
      · exact absurd (afterText?_eq_some_iff.mp read) (notColon typing)
    · exact nofun

end Body

/-! ## Readers of the forms -/

namespace DeclarationForm

variable
    {form : DeclarationForm}
    {line text name raw : List Char}

/-- The reader of a form. -/
def reader? : DeclarationForm → List Char → Option NamedParameters
  | .function => functionForm?
  | .constant => constantForm?
  | .property => propertyForm?
  | .method => methodForm?

/-- Nothing that stands after a name could make it longer. -/
theorem startsWith_tail
    (form : DeclarationForm)
    (raw : List Char) :
    StartsWith OutsideWord (form.tail raw) := by
  have whiteOutside :
      ∀ character,
        isWhitespace character = true → OutsideWord character :=
    fun _ => isWordCharacter_eq_false_of_isWhitespace
  cases form with
  | function =>
      exact
        (startsWith_parameterList (by decide) raw).spaces_mul whiteOutside
  | constant =>
      exact
        ((startsWith_literal '=' (by decide) (by decide)).mul _).spaces_mul
          whiteOutside
  | property =>
      exact
        ((startsWith_literal ':' (by decide) (by decide)).mul _).spaces_mul
          whiteOutside
  | method =>
      exact
        ((startsWith_parameterList (by decide) raw).mul _).spaces_mul
          whiteOutside

theorem startsWith_word_visible
    (name : List Char)
    (language : Language Char) :
    StartsWith Visible (word name * language) :=
  (startsWith_word
    (fun _ => isWhitespace_eq_false_of_isWordCharacter) name).mul language

theorem begins_function_iff :
    Begins (function.language name raw) text ↔
      functionForm? text = some ⟨name, raw⟩ := by
  have functionStarts {property : Char → Prop} (holds : property 'f') :=
    (startsWith_keyword "function" 'f' (by decide) holds).mul
      (word name * (spaces * (parameterList raw * 1)))
  have asyncStarts
      {property : Char → Prop}
      (asyncHolds : property 'a')
      (functionHolds : property 'f') :=
    (startsWith_keyword "async" 'a' (by decide) asyncHolds).optional_mul
      (functionStarts functionHolds)
  rw [language, lead, tail, mul_assoc, mul_assoc,
    ← mul_one (parameterList raw),
    begins_optional_keyword_mul_iff 'e' (by decide)
      (asyncStarts (by decide) (by decide))
      (asyncStarts (by decide) (by decide)),
    begins_optional_keyword_mul_iff 'a' (by decide)
      (functionStarts (by decide)) (functionStarts (by decide)),
    begins_keyword_mul_iff (startsWith_word_visible name _),
    functionForm?]
  simp only [begins_heading_mul_iff, begins_one, and_true,
    Option.bind_eq_bind, Option.bind_eq_some_iff, Prod.exists]
  constructor
  · rintro ⟨behind, keywordRead, rest, headingRead⟩
    exact ⟨behind, keywordRead, name, raw, rest, headingRead, rfl⟩
  · rintro ⟨behind, keywordRead, _, _, rest, headingRead, found⟩
    cases found
    exact ⟨behind, keywordRead, rest, headingRead⟩

/-- A name and a function value are read with the mark between them. -/
theorem begins_namedValue_iff
    (mark : String)
    (character : Char)
    (isMark : mark.toList.head? = some character)
    (visible : Visible character)
    (outside : OutsideWord character) :
    Begins
        (word name *
          (spaces * (literal mark * (spaces * functionValue raw))))
        text ↔
      ∃ rest,
        word? text = some (name, rest) ∧
          ∃ behind,
            afterText? mark (afterSpaces rest) = some behind ∧
              functionValueParameters? (afterSpaces behind) =
                some raw := by
  have markVisible :
      StartsWith Visible
        (literal mark * (spaces * functionValue raw)) :=
    (startsWith_literal character isMark visible).mul _
  have markOutside :
      StartsWith OutsideWord
        (spaces * (literal mark * (spaces * functionValue raw))) :=
    ((startsWith_literal character isMark outside).mul _).spaces_mul
      fun _ => isWordCharacter_eq_false_of_isWhitespace
  have valueVisible : StartsWith Visible (functionValue raw) :=
    startsWith_functionValue (by decide) (by decide) raw
  simp only [begins_word_mul_iff markOutside,
    begins_spaces_mul_iff markVisible, begins_literal_mul_iff,
    begins_spaces_mul_iff valueVisible,
    functionValueParameters?_eq_some_iff]

theorem begins_constant_iff :
    Begins (constant.language name raw) text ↔
      constantForm? text = some ⟨name, raw⟩ := by
  have constStarts {property : Char → Prop} (holds : property 'c') :=
    (startsWith_keyword "const" 'c' (by decide) holds).mul
      (word name *
        (spaces * (literal "=" * (spaces * functionValue raw))))
  rw [language, lead, tail, mul_assoc,
    begins_optional_keyword_mul_iff 'e' (by decide)
      (constStarts (by decide)) (constStarts (by decide)),
    begins_keyword_mul_iff (startsWith_word_visible name _),
    constantForm?]
  simp only [
    begins_namedValue_iff "=" '=' (by decide) (by decide) (by decide),
    Option.bind_eq_bind, Option.bind_eq_some_iff, Prod.exists]
  constructor
  · rintro ⟨behind, keywordRead, rest, wordRead, value, markRead, valueRead⟩
    exact
      ⟨behind, keywordRead, name, rest, wordRead, value, markRead, raw,
        valueRead, rfl⟩
  · rintro ⟨behind, keywordRead, _, rest, wordRead, value, markRead, _,
      valueRead, found⟩
    cases found
    exact ⟨behind, keywordRead, rest, wordRead, value, markRead, valueRead⟩

theorem begins_property_iff :
    Begins (property.language name raw) text ↔
      propertyForm? text = some ⟨name, raw⟩ := by
  rw [language, lead, tail, one_mul,
    begins_namedValue_iff ":" ':' (by decide) (by decide) (by decide),
    propertyForm?]
  simp only [Option.bind_eq_bind, Option.bind_eq_some_iff, Prod.exists]
  constructor
  · rintro ⟨rest, wordRead, value, markRead, valueRead⟩
    exact ⟨name, rest, wordRead, value, markRead, raw, valueRead, rfl⟩
  · rintro ⟨_, rest, wordRead, value, markRead, _, valueRead, found⟩
    cases found
    exact ⟨rest, wordRead, value, markRead, valueRead⟩

theorem namedParametersWithBody?_eq_some_iff :
    namedParametersWithBody? text = some ⟨name, raw⟩ ↔
      Begins (word name * (spaces * (parameterList raw * body))) text := by
  rw [begins_heading_mul_iff, namedParametersWithBody?]
  simp only [begins_body_iff, Option.bind_eq_bind,
    Option.bind_eq_some_iff, Prod.exists]
  constructor
  · rintro ⟨_, _, rest, headingRead, found⟩
    rw [Option.ite_none_right_eq_some] at found
    rcases found with ⟨opens, found⟩
    cases found
    exact ⟨rest, headingRead, opens⟩
  · rintro ⟨rest, headingRead, opens⟩
    exact ⟨name, raw, rest, headingRead, if_pos opens⟩

/-- A method without the keyword is not read with it as well: where a name
follows the keyword, no parameter list does. -/
theorem asyncMethod?_eq_none
    (read : namedParametersWithBody? text = some ⟨name, raw⟩) :
    (afterKeyword? "async" text).bind namedParametersWithBody? =
      none := by
  rw [Option.bind_eq_none_iff]
  intro behind keywordRead
  cases other : namedParametersWithBody? behind with
  | none => rfl
  | some otherFound =>
      rcases exists_gap_of_afterKeyword? keywordRead with
        ⟨white, ⟨nonempty, allWhite⟩, rfl⟩
      have otherBegins := namedParametersWithBody?_eq_some_iff.mp other
      have visible : BeginsVisible behind :=
        otherBegins.forall_head? (startsWith_word_visible _ _)
      have keywordEnds :
          ∀ character ∈ (white ++ behind).head?,
            isWordCharacter character = false := by
        rcases List.exists_cons_of_ne_nil nonempty with
          ⟨first, others, rfl⟩
        apply forall_mem_head?_cons
        exact
          isWordCharacter_eq_false_of_isWhitespace
            (allWhite first List.mem_cons_self)
      have listVisible : StartsWith Visible (parameterList raw * body) :=
        (startsWith_parameterList (by decide) raw).mul body
      have listOutside : StartsWith OutsideWord (parameterList raw * body) :=
        (startsWith_parameterList (by decide) raw).mul body
      rcases (begins_word_mul_iff (startsWith_tail method raw)).mp
          (namedParametersWithBody?_eq_some_iff.mp read) with
        ⟨rest, wordRead, listBegins⟩
      rw [word?_append (by decide) keywordEnds,
        Option.some.injEq, Prod.mk.injEq] at wordRead
      rcases wordRead with ⟨-, rfl⟩
      rw [tail, begins_spaces_mul_iff listVisible,
        afterSpaces_append allWhite visible] at listBegins
      rcases otherBegins.head? ((startsWith_word (fun _ => id) _).mul _) with
        ⟨character, isFirst, isWord⟩
      have isOutside : isWordCharacter character = false :=
        listBegins.forall_head? listOutside character isFirst
      rw [isWord] at isOutside
      exact nomatch isOutside

theorem begins_method_iff :
    Begins (method.language name raw) text ↔
      methodForm? text = some ⟨name, raw⟩ := by
  rw [language, lead, tail, begins_optional_mul_iff,
    begins_keyword_mul_iff (startsWith_word_visible name _),
    methodForm?, Option.or_eq_some_iff, Option.bind_eq_some_iff]
  simp only [← namedParametersWithBody?_eq_some_iff]
  constructor
  · rintro (plainRead | asyncRead)
    · exact .inr ⟨asyncMethod?_eq_none plainRead, plainRead⟩
    · exact .inl asyncRead
  · rintro (asyncRead | ⟨-, plainRead⟩)
    · exact .inr asyncRead
    · exact .inl plainRead

/-- A text of the form begins exactly where its reader finds the name and the
raw parameters. -/
theorem begins_language_iff :
    Begins (form.language name raw) text ↔
      form.reader? text = some ⟨name, raw⟩ := by
  cases form with
  | function => exact begins_function_iff
  | constant => exact begins_constant_iff
  | property => exact begins_property_iff
  | method => exact begins_method_iff

/-- The position determines the name and the raw parameters. -/
theorem BeginsAt.unique
    {position : Nat}
    {otherName otherRaw : List Char}
    (begins : form.BeginsAt text position name raw)
    (otherBegins : form.BeginsAt text position otherName otherRaw) :
    name = otherName ∧ raw = otherRaw := by
  rw [BeginsAt, begins_language_iff] at begins otherBegins
  rw [begins, Option.some.injEq, NamedParameters.mk.injEq] at otherBegins
  exact otherBegins

theorem leftmost?_reader?_eq_some_iff :
    leftmost? form.reader? text = some ⟨name, raw⟩ ↔
      ∃ position, form.IsLeftmost text position name raw := by
  have reads :
      ∀ text found,
        form.reader? text = some found ↔
          ∃ index : NamedParameters,
            Begins (form.language index.name index.parameters) text ∧
              index = found := by
    intro text found
    simp only [exists_eq_right]
    exact begins_language_iff.symm
  rw [leftmost?_eq_some_iff_begins reads]
  constructor
  · rintro ⟨position, _, begins, rfl, leftmost⟩
    refine ⟨position, begins, ?_⟩
    intro earlier otherName otherRaw
    exact leftmost earlier ⟨otherName, otherRaw⟩
  · rintro ⟨position, begins, leftmost⟩
    refine ⟨position, ⟨name, raw⟩, begins, rfl, ?_⟩
    intro earlier other
    exact leftmost earlier other.name other.parameters

/-! ## The order of the forms -/

/-- The forms in the order in which they are tried. -/
def all : List DeclarationForm :=
  [.function, .constant, .property, .method]

theorem mem_all
    (form : DeclarationForm) :
    form ∈ all := by
  cases form <;> decide

theorem pairwise_priority :
    all.Pairwise (priority · < priority ·) := by
  decide

/-- The first answer in the order of the forms. -/
theorem findSome?_all_eq_some_iff
    {α : Type}
    {answer? : DeclarationForm → Option α}
    {answer : α} :
    all.findSome? answer? = some answer ↔
      ∃ form,
        answer? form = some answer ∧
          ∀ earlier,
            priority earlier < priority form →
              answer? earlier = none := by
  rw [List.findSome?_eq_some_iff]
  constructor
  · rintro ⟨before, form, after, split, here, nothingBefore⟩
    refine ⟨form, here, ?_⟩
    intro earlier sooner
    have ordered := pairwise_priority
    rw [split, List.pairwise_append, List.pairwise_cons] at ordered
    have member := mem_all earlier
    rw [split, List.mem_append, List.mem_cons] at member
    rcases member with inBefore | rfl | inAfter
    · exact nothingBefore earlier inBefore
    · exact absurd sooner (Nat.lt_irrefl _)
    · exact absurd sooner (Nat.lt_asymm (ordered.2.1.1 earlier inAfter))
  · rintro ⟨form, here, nothingEarlier⟩
    rcases List.append_of_mem (mem_all form) with ⟨before, after, split⟩
    refine ⟨before, form, after, split, here, ?_⟩
    intro earlier inBefore
    apply nothingEarlier
    have ordered := pairwise_priority
    rw [split, List.pairwise_append] at ordered
    exact ordered.2.2 earlier inBefore form List.mem_cons_self

/-- The signature that a form finds on a line. -/
def signature?
    (form : DeclarationForm)
    (line : Line) :
    Option Signature :=
  ((leftmost? form.reader? (trim line)).map fun found =>
      Signature.ofRaw found.name found.parameters).filter
    fun signature => !controlKeywords.contains signature.name

theorem declaration?_eq_findSome?
    (line : Line) :
    declaration? line = all.findSome? (·.signature? line) :=
  rfl

theorem signature?_eq_some_iff
    {signature : Signature} :
    form.signature? line = some signature ↔
      form.Declares line signature := by
  simp only [signature?, Option.filter_eq_some_iff,
    Option.map_eq_some_iff, Declares]
  constructor
  · rintro ⟨⟨⟨name, raw⟩, read, rfl⟩, notControl⟩
    rcases leftmost?_reader?_eq_some_iff.mp read with
      ⟨position, isLeftmost⟩
    refine ⟨position, name, raw, isLeftmost, ?_, rfl⟩
    simpa [Signature.ofRaw] using notControl
  · rintro ⟨position, name, raw, isLeftmost, notControl, rfl⟩
    refine
      ⟨⟨⟨name, raw⟩,
        leftmost?_reader?_eq_some_iff.mpr ⟨position, isLeftmost⟩, rfl⟩,
        ?_⟩
    simpa using notControl

/-! ## Whole words -/

/-- What stands before the name does not end in a character of a name. -/
theorem endsWith_lead
    (form : DeclarationForm) :
    EndsWith OutsideWord form.lead := by
  have keywordEnds :
      ∀ text, EndsWith OutsideWord (keyword text) :=
    endsWith_keyword fun _ => isWordCharacter_eq_false_of_isWhitespace
  cases form with
  | function =>
      exact
        (keywordEnds "export").optional.mul
          ((keywordEnds "async").optional.mul (keywordEnds "function"))
  | constant =>
      exact (keywordEnds "export").optional.mul (keywordEnds "const")
  | property => exact endsWith_one OutsideWord
  | method => exact (keywordEnds "async").optional

theorem BeginsAt.isName
    {position : Nat}
    (begins : form.BeginsAt text position name raw) :
    IsName name := by
  rcases begins_mul_iff.mp begins with ⟨_, _, _, _, wordBegins⟩
  rcases begins_mul_iff.mp wordBegins with ⟨_, ⟨rfl, isName⟩, _⟩
  exact isName

/-- The name at the leftmost text of a form is a whole word. -/
theorem IsLeftmost.wholeWord
    {position : Nat}
    {before written rest : List Char}
    (isLeftmost : form.IsLeftmost text position name raw)
    (split : text = before ++ (written ++ (name ++ rest)))
    (isPosition : before.length = position)
    (isLead : written ∈ form.lead)
    (isTail : Begins (form.tail raw) rest) :
    (∀ character ∈ (before ++ written).getLast?, OutsideWord character) ∧
      ∀ character ∈ rest.head?, OutsideWord character := by
  refine ⟨?_, isTail.forall_head? (form.startsWith_tail raw)⟩
  intro character isLast
  rw [List.getLast?_append, Option.mem_def, Option.or_eq_some_iff] at isLast
  rcases isLast with inLead | ⟨noLead, inBefore⟩
  · exact form.endsWith_lead written isLead character inLead
  · rw [List.getLast?_eq_none_iff] at noLead
    rcases List.getLast?_eq_some_iff.mp inBefore with ⟨earlier, rfl⟩
    subst noLead
    -- With this character the name would be longer and the form begin earlier.
    refine Bool.eq_false_iff.mpr fun isWord => ?_
    have longerName : IsName (character :: name) :=
      ⟨List.cons_ne_nil _ _,
        List.forall_mem_cons.mpr ⟨isWord, isLeftmost.begins.isName.word⟩⟩
    have beginsEarlier :
        form.BeginsAt text earlier.length (character :: name) raw := by
      rw [BeginsAt, split, List.append_assoc, List.drop_left,
        language, begins_mul_iff]
      refine ⟨[], isLead, character :: (name ++ rest), rfl, ?_⟩
      rw [begins_mul_iff]
      exact ⟨character :: name, ⟨rfl, longerName⟩, rest, rfl, isTail⟩
    have reached := isLeftmost.leftmost _ _ _ beginsEarlier
    rw [← isPosition, List.length_append, List.length_singleton] at reached
    omega

end DeclarationForm

/--
A line declares what the first form declares that finds a text of its own on
the trimmed line with a name that is no control keyword, and it declares
nothing when no form does.  The leftmost position determines the name and the
raw parameters, and the name there is a whole word.
-/
theorem declaration?_exact
    (line : Line) :
    (∀ signature,
      declaration? line = some signature ↔
        ∃ form : DeclarationForm,
          form.Declares line signature ∧
            ∀ earlier : DeclarationForm,
              earlier.priority < form.priority →
                ∀ other, ¬ earlier.Declares line other) ∧
      (declaration? line = none ↔
        ∀ (form : DeclarationForm) (signature : Signature),
          ¬ form.Declares line signature) ∧
      (∀ (form : DeclarationForm) (position : Nat)
          (name raw otherName otherRaw : List Char),
        form.BeginsAt (trim line) position name raw →
          form.BeginsAt (trim line) position otherName otherRaw →
            name = otherName ∧ raw = otherRaw) ∧
      ∀ (form : DeclarationForm) (position : Nat)
          (name raw before written rest : List Char),
        form.IsLeftmost (trim line) position name raw →
          trim line = before ++ (written ++ (name ++ rest)) →
            before.length = position →
              written ∈ form.lead →
                Begins (form.tail raw) rest →
                  (∀ character ∈ (before ++ written).getLast?,
                      isWordCharacter character = false) ∧
                    ∀ character ∈ rest.head?,
                      isWordCharacter character = false := by
  have undeclared_iff :
      ∀ form : DeclarationForm,
        form.signature? line = none ↔
          ∀ signature, ¬ form.Declares line signature := by
    intro form
    simp only [Option.eq_none_iff_forall_ne_some, ne_eq,
      DeclarationForm.signature?_eq_some_iff]
  refine ⟨?_, ?_, ?_, ?_⟩
  · intro signature
    simp only [DeclarationForm.declaration?_eq_findSome?,
      DeclarationForm.findSome?_all_eq_some_iff,
      DeclarationForm.signature?_eq_some_iff, undeclared_iff]
  · rw [DeclarationForm.declaration?_eq_findSome?,
      List.findSome?_eq_none_iff]
    simp only [undeclared_iff, DeclarationForm.mem_all, forall_const]
  · intro form position name raw otherName otherRaw begins otherBegins
    exact begins.unique otherBegins
  · intro form position name raw before written rest isLeftmost split
      isPosition isLead isTail
    exact isLeftmost.wholeWord split isPosition isLead isTail

/-- A line whose third form finds a control keyword, and whose fourth form is
used in its place. -/
theorem declaration?_exact_control :
    (∃ form : DeclarationForm,
      form.Declares " if: (a) => b (c) \x7b".toList ⟨"b", ["c"], none⟩ ∧
        ∀ earlier : DeclarationForm,
          earlier.priority < form.priority →
            ∀ other,
              ¬ earlier.Declares " if: (a) => b (c) \x7b".toList other) ∧
      (∀ character ∈ ("if: (a) => ".toList ++ []).getLast?,
        isWordCharacter character = false) ∧
        ∀ character ∈ " (c) \x7b".toList.head?,
          isWordCharacter character = false := by
  have exact_here := declaration?_exact " if: (a) => b (c) \x7b".toList
  constructor
  · exact (exact_here.1 ⟨"b", ["c"], none⟩).mp (by decide)
  · have nowhereEarlier :
        ∀ earlier < 11,
          (methodForm?
            ((trim " if: (a) => b (c) \x7b".toList).drop earlier)).isNone =
              true := by
      decide
    have isLeftmost :
        DeclarationForm.method.IsLeftmost
          (trim " if: (a) => b (c) \x7b".toList) 11
          "b".toList "c".toList := by
      refine ⟨DeclarationForm.begins_language_iff.mpr rfl, ?_⟩
      intro earlier otherName otherRaw otherBegins
      refine Nat.le_of_not_lt fun before => ?_
      have found := DeclarationForm.begins_language_iff.mp otherBegins
      have nothing := nowhereEarlier earlier before
      rw [Option.isNone_iff_eq_none] at nothing
      exact nomatch nothing.symm.trans found
    have isTail :
        Begins (DeclarationForm.method.tail "c".toList)
          " (c) \x7b".toList := by
      have listVisible :
          StartsWith Visible (parameterList "c".toList * body) :=
        (startsWith_parameterList (by decide) _).mul body
      rw [DeclarationForm.tail, begins_spaces_mul_iff listVisible,
        begins_parameterList_mul_iff]
      exact ⟨" \x7b".toList, by decide, begins_body_iff.mpr (by decide)⟩
    exact
      exact_here.2.2.2 .method 11 "b".toList "c".toList
        "if: (a) => ".toList [] " (c) \x7b".toList isLeftmost
        (by decide) (by decide) (.inl rfl) isTail

end TestScribe.Header

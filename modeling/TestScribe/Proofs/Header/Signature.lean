import TestScribe.Header.Definition
import TestScribe.Header.Method
import TestScribe.Proofs.Header.DeclarationGrammar
import TestScribe.Proofs.Header.Member
import TestScribe.Proofs.Source.Parameters

/-!
# What a header hands on

Whatever kind of header a line holds, the signature is cut out of the line: the
name is one, and the parameters are the entries of a raw list that stands in the
line and holds no closing parenthesis.  Only a method has a return type, which is
a visible text without white space.
-/

namespace TestScribe.Header

open TestScribe.Source TestScribe.Text Grammar

/-- The signature has a name, and its parameters are those of a raw list in the
text, without a closing parenthesis. -/
structure IsCutFrom
    (text : List Char)
    (signature : Signature) : Prop where
  isName : IsName signature.name.toList
  fromList :
    ∃ raw : List Char,
      raw <:+: text ∧
        ')' ∉ raw ∧
          signature.parameters = splitParameters (String.ofList raw)

/-- A return type that can be handed on. -/
structure IsVisibleType
    (type : List Char) : Prop where
  nonempty : type ≠ []
  solid : ∀ character ∈ type, isWhitespace character = false

instance (type : List Char) : Decidable (IsVisibleType type) :=
  decidable_of_iff
    (type ≠ [] ∧ type.all (isWhitespace · = false) = true)
    ⟨fun ⟨nonempty, solid⟩ => ⟨nonempty, by simpa using solid⟩,
      fun ⟨nonempty, solid⟩ => ⟨nonempty, by simpa using solid⟩⟩

/-- The signature is cut out of the text and has a return type. -/
structure IsMethodOf
    (text : List Char)
    (signature : Signature) : Prop extends IsCutFrom text signature where
  typed :
    ∃ type,
      signature.returnType = some (String.ofList type) ∧
        IsVisibleType type

variable
    {text rest longer name raw type : List Char}
    {line : Line}
    {signature : Signature}

/-! ## Cutting out of a longer text -/

theorem IsCutFrom.mono
    (isCut : IsCutFrom text signature)
    (inside : text <:+: longer) :
    IsCutFrom longer signature := by
  rcases isCut.fromList with ⟨raw, here, noClosing, parameters⟩
  exact
    ⟨isCut.isName, raw, here.trans inside, noClosing, parameters⟩

theorem IsMethodOf.mono
    (isMethod : IsMethodOf text signature)
    (inside : text <:+: longer) :
    IsMethodOf longer signature :=
  ⟨isMethod.toIsCutFrom.mono inside, isMethod.typed⟩

/-- The parameters that are handed on are entries, and hold neither a closing
parenthesis nor a line feed. -/
theorem IsCutFrom.parameters
    (isCut : IsCutFrom line signature)
    (unbroken : '\n' ∉ line) :
    ∀ parameter ∈ signature.parameters,
      IsEntry parameter.toList ∧
        ')' ∉ parameter.toList ∧ '\n' ∉ parameter.toList := by
  rcases isCut.fromList with ⟨raw, inside, noClosing, parameters⟩
  intro parameter member
  rw [parameters, splitParameters, String.toList_ofList, List.mem_map]
    at member
  rcases member with ⟨entry, isRead, rfl⟩
  rcases isEntry_of_mem_parameterEntries isRead with ⟨isEntry, fromRaw⟩
  rw [String.toList_ofList]
  refine ⟨isEntry, ?_, ?_⟩
  · intro closing
    exact noClosing (fromRaw closing)
  · intro lineFeed
    exact unbroken (inside.subset (fromRaw lineFeed))

/-! ## What the readers leave -/

theorem suffix_of_afterKeyword?
    {keyword : String}
    (read : afterKeyword? keyword text = some rest) :
    rest <:+ text := by
  rcases exists_gap_of_afterKeyword? read with ⟨white, -, rfl⟩
  exact (List.suffix_append white rest).trans (List.suffix_append _ _)

theorem suffix_of_afterAnyKeyword?
    {keywords : List String}
    (read : afterAnyKeyword? keywords text = some rest) :
    rest <:+ text := by
  rcases List.exists_of_findSome?_eq_some read with ⟨keyword, -, here⟩
  exact suffix_of_afterKeyword? here

/-! ## Names with parameter lists -/

theorem isCutFrom_ofRaw
    (isName : IsName name)
    (inside : raw <:+: text)
    (noClosing : ')' ∉ raw) :
    IsCutFrom text (Signature.ofRaw name raw) := by
  refine ⟨?_, raw, inside, noClosing, rfl⟩
  rwa [Signature.ofRaw, String.toList_ofList]

/-- Every text of a form holds the raw parameters, which have no closing
parenthesis. -/
def HoldsList
    (raw : List Char)
    (language : Language Char) : Prop :=
  ∀ text ∈ language, raw <:+: text ∧ ')' ∉ raw

section HoldsList

variable
    {first second : Language Char}

theorem holdsList_parameterList
    (raw : List Char) :
    HoldsList raw (parameterList raw) := by
  rintro _ ⟨rfl, noClosing⟩
  exact ⟨⟨['('], [')'], rfl⟩, noClosing⟩

/-- What holds the raw parameters holds a piece: the raw parameters alone. -/
theorem holdsList_iff_holds
    {language : Language Char} :
    HoldsList raw language ↔
      Holds {piece | piece = raw ∧ ')' ∉ piece} language := by
  refine forall₂_congr fun text _ => ⟨?_, ?_⟩
  · rintro ⟨inside, noClosing⟩
    exact ⟨raw, ⟨rfl, noClosing⟩, inside⟩
  · rintro ⟨_, ⟨rfl, noClosing⟩, inside⟩
    exact ⟨inside, noClosing⟩

theorem HoldsList.mul
    (holds : HoldsList raw first)
    (second : Language Char) :
    HoldsList raw (first * second) :=
  holdsList_iff_holds.mpr ((holdsList_iff_holds.mp holds).mul second)

theorem HoldsList.mul_left
    (first : Language Char)
    (holds : HoldsList raw second) :
    HoldsList raw (first * second) :=
  holdsList_iff_holds.mpr ((holdsList_iff_holds.mp holds).mul_left first)

theorem HoldsList.add
    (firstHolds : HoldsList raw first)
    (secondHolds : HoldsList raw second) :
    HoldsList raw (first + second) :=
  holdsList_iff_holds.mpr
    ((holdsList_iff_holds.mp firstHolds).add
      (holdsList_iff_holds.mp secondHolds))

theorem holdsList_functionValue
    (raw : List Char) :
    HoldsList raw (functionValue raw) :=
  ((holdsList_parameterList raw).mul arrow).add
    (((holdsList_parameterList raw).mul_left _).mul_left _)

/-- What follows the name in a declaration holds the parameter list. -/
theorem holdsList_tail
    (form : DeclarationForm)
    (raw : List Char) :
    HoldsList raw (form.tail raw) := by
  cases form with
  | function => exact (holdsList_parameterList raw).mul_left spaces
  | constant =>
      exact
        (((holdsList_functionValue raw).mul_left _).mul_left _).mul_left _
  | property =>
      exact
        (((holdsList_functionValue raw).mul_left _).mul_left _).mul_left _
  | method =>
      exact ((holdsList_parameterList raw).mul body).mul_left spaces

theorem HoldsList.of_begins
    (holds : HoldsList raw first)
    (begins : Begins first text) :
    raw <:+: text ∧ ')' ∉ raw := by
  rcases begins with ⟨written, member, front⟩
  rcases holds written member with ⟨inside, noClosing⟩
  exact ⟨inside.trans front.isInfix, noClosing⟩

end HoldsList

theorem isCutFrom_of_namedParameters?
    (read : namedParameters? text = some ((name, raw), rest)) :
    IsCutFrom text (Signature.ofRaw name raw) := by
  rcases exists_of_namedParameters? read with
    ⟨isName, noClosing, white, -, rfl⟩
  refine isCutFrom_ofRaw isName ?_ noClosing
  exact ⟨name ++ (white ++ ['(']), ')' :: rest, by simp⟩

/-! ## The kinds of header -/

/-- A definition has no return type. -/
theorem isCutFrom_of_definition?
    (declared : definition? line = some signature) :
    IsCutFrom line signature ∧ signature.returnType = none := by
  rcases exists_suffix_of_leftmost? declared with
    ⟨before, text, rfl, success⟩
  simp only [definitionForm?, Option.bind_eq_bind,
    Option.bind_eq_some_iff, Prod.exists] at success
  rcases success with ⟨behind, keywordRead, name, raw, rest, read, found⟩
  cases found
  have inside : behind <:+ before ++ text :=
    (suffix_of_afterKeyword? keywordRead).trans
      (List.suffix_append before text)
  exact ⟨(isCutFrom_of_namedParameters? read).mono inside.isInfix, rfl⟩

/-- A declaration has a name that is no control keyword, and no return type. -/
theorem isCutFrom_of_declaration?
    (declared : declaration? line = some signature) :
    IsCutFrom line signature ∧
      signature.name ∉ controlKeywords ∧
        signature.returnType = none := by
  rw [DeclarationForm.declaration?_eq_findSome?] at declared
  rcases List.exists_of_findSome?_eq_some declared with ⟨form, -, here⟩
  rcases DeclarationForm.signature?_eq_some_iff.mp here with
    ⟨position, name, raw, isLeftmost, notControl, rfl⟩
  have begins := isLeftmost.begins
  rcases
      (((holdsList_tail form raw).mul_left _).mul_left _).of_begins
        begins with
    ⟨inside, noClosing⟩
  have onLine : (trim line).drop position <:+: line :=
    (List.drop_suffix position _).isInfix.trans (trim_isInfix line)
  exact
    ⟨(isCutFrom_ofRaw begins.isName inside noClosing).mono onLine,
      notControl, rfl⟩

theorem IsCutFrom.withReturnType
    (isCut : IsCutFrom text signature)
    (isType : IsVisibleType type) :
    IsMethodOf text (signature.withReturnType type) :=
  ⟨⟨isCut.isName, isCut.fromList⟩, type, rfl, isType⟩

theorem isVisibleType_defaultReturnType :
    IsVisibleType defaultReturnType.toList := by
  decide

theorem isMethodOf_of_member?
    (read : member? text = some signature) :
    IsMethodOf text signature := by
  rw [member?, Option.or_eq_some_iff] at read
  rcases read with typed | ⟨-, untyped⟩
  · rcases typedMember?_eq_some_iff.mp typed with
      ⟨type, name, raw, nonempty, begins, rfl⟩
    rcases begins_mul_iff.mp begins with
      ⟨run, ⟨rfl, solid⟩, behind, rfl, behindBegins⟩
    rcases begins_mul_iff.mp behindBegins with
      ⟨between, -, heading, rfl, headBegins⟩
    rcases begins_heading_iff.mp headBegins with ⟨rest, headRead⟩
    have inside : heading <:+ run ++ (between ++ heading) :=
      (List.suffix_append between heading).trans
        (List.suffix_append run _)
    exact
      ((isCutFrom_of_namedParameters? headRead).mono
        inside.isInfix).withReturnType ⟨nonempty, solid⟩
  · simp only [untypedMember?, Option.bind_eq_bind,
      Option.bind_eq_some_iff, Prod.exists] at untyped
    rcases untyped with ⟨name, raw, rest, headRead, found⟩
    cases found
    exact
      (isCutFrom_of_namedParameters? headRead).withReturnType
        isVisibleType_defaultReturnType

/-- However many keywords are read before it, a member is read behind them. -/
theorem isMethodOf_of_modifiedMember?
    {rounds : Nat}
    (read : modifiedMember? rounds text = some signature) :
    IsMethodOf text signature := by
  induction rounds generalizing text with
  | zero => exact isMethodOf_of_member? read
  | succ rounds ih =>
      rw [modifiedMember?] at read
      split at read
      · next rest keywordRead =>
        rw [Option.or_eq_some_iff] at read
        rcases read with behind | ⟨-, here⟩
        · exact
            (ih behind).mono
              (suffix_of_afterAnyKeyword? keywordRead).isInfix
        · exact isMethodOf_of_member? here
      · exact isMethodOf_of_member? read

theorem isMethodOf_of_method?
    (declared : method? line = some signature) :
    IsMethodOf line signature := by
  rcases exists_suffix_of_leftmost? declared with
    ⟨before, text, rfl, success⟩
  simp only [methodHeader?, Option.bind_eq_bind,
    Option.bind_eq_some_iff] at success
  rcases success with ⟨rest, modifierRead, read⟩
  exact
    (isMethodOf_of_modifiedMember? read).mono
      ((suffix_of_afterAnyKeyword? modifierRead).trans
        (List.suffix_append before text)).isInfix

end TestScribe.Header

import TestScribe.Proofs.Header.Heading
import TestScribe.Proofs.Header.MethodFront

/-!
# Written methods

A method is written `MODIFIER (keyword )*TYPE NAME(PARAMETERS)` with any
indentation, and a brace that opens its body.  The type is none of the keyword
modifiers, so the written line declares exactly this method.  It opens one
brace and stays on its line.
-/

namespace TestScribe.Header

open TestScribe.Block TestScribe.Source TestScribe.Text

/-- A return type that can be written before a name. -/
structure IsType
    (text : List Char) : Prop where
  nonempty : text ≠ []
  solid : ∀ character ∈ text, isWhitespace character = false
  noBrace : ∀ character ∈ text, character ∉ ['{', '}']
  notKeyword : String.ofList text ∉ keywordModifiers

instance (text : List Char) : Decidable (IsType text) :=
  decidable_of_iff
    (text ≠ [] ∧
      text.all (isWhitespace · = false) = true ∧
        text.all (· ∉ ['{', '}']) = true ∧
          String.ofList text ∉ keywordModifiers)
    ⟨fun ⟨nonempty, solid, noBrace, notKeyword⟩ =>
        ⟨nonempty, by simpa using solid, by simpa using noBrace,
          notKeyword⟩,
      fun ⟨nonempty, solid, noBrace, notKeyword⟩ =>
        ⟨nonempty, by simpa using solid, by simpa using noBrace,
          notKeyword⟩⟩

section IsType

variable
    {type : List Char}

theorem IsType.braceDelta_eq_zero
    (isType : IsType type) :
    braceDelta type = 0 := by
  apply braceDelta_eq_zero_of_not_mem
  · intro member
    exact isType.noBrace _ member (by decide)
  · intro member
    exact isType.noBrace _ member (by decide)

theorem IsType.lineFeed_not_mem
    (isType : IsType type) :
    '\n' ∉ type := by
  intro member
  exact absurd (isType.solid _ member) (by decide)

end IsType

/-- A method with an access modifier as it is written. -/
structure MethodHeading extends Heading where
  indent : List Char
  modifier : String
  keywords : List String
  type : List Char
  isIndent : IsIndent indent
  isModifier : modifier ∈ accessModifiers
  areKeywords : ∀ keyword ∈ keywords, keyword ∈ keywordModifiers
  isType : IsType type

namespace MethodHeading

variable (heading : MethodHeading)

/-- The text from the type on. -/
def fromType : List Char :=
  heading.type ++ ([' '] ++ heading.followedBy [' ', '{'])

/-- The text after the access modifier. -/
def fromKeywords : List Char :=
  withKeywords heading.keywords heading.fromType

/-- The written line. -/
def line : Line :=
  heading.indent ++ withKeyword heading.modifier heading.fromKeywords

/-- What the written line declares. -/
def declared : Signature :=
  heading.signature (some (String.ofList heading.type))

theorem areNames :
    ∀ keyword ∈ heading.keywords, IsName keyword.toList := by
  intro keyword member
  exact
    isName_of_mem_keywordModifiers keyword
      (heading.areKeywords keyword member)

theorem isName_modifier :
    IsName heading.modifier.toList :=
  isName_of_mem_accessModifiers _ heading.isModifier

/-! ## Reading the written line -/

/-- The heading as a written method. -/
def written : WrittenMethod where
  indent := heading.indent
  modifier := .ofKeyword heading.modifier
  keywords := heading.keywords.map .ofKeyword
  blank := (isBlank_iff _).mpr heading.isIndent.white
  isModifier := heading.isModifier
  areKeywords := by
    simp only [List.mem_map]
    rintro _ ⟨keyword, member, rfl⟩
    exact heading.areKeywords keyword member
  type := heading.type
  between := [' ']
  name := heading.name
  spaces := []
  raw := heading.raw
  rest := [' ', '{']
  isGap := by
    decide
  isName := heading.isName
  blankSpaces := rfl
  noClosing := heading.not_mem_raw (by decide)

theorem line_written :
    heading.written.line = heading.line := by
  rw [line, fromKeywords, withKeywords_eq_withSpaced]
  rfl

/-- The written line declares the method. -/
theorem method?_line :
    method? heading.line = some heading.declared := by
  have declared : heading.written.declared = heading.declared :=
    congrArg (Signature.withReturnType · heading.type)
      heading.ofRaw_eq_signature
  rw [← heading.line_written, ← declared]
  exact
    heading.written.method?_line_of_solid heading.isType.nonempty
      heading.isType.solid heading.isType.notKeyword

/-! ## Characters of the written line -/

theorem braceDelta_line :
    braceDelta heading.line = 1 := by
  rw [line, fromKeywords, fromType, braceDelta_append,
    braceDelta_of_white heading.isIndent.white,
    braceDelta_withKeyword heading.isName_modifier,
    braceDelta_withKeywords heading.areNames, braceDelta_append,
    heading.isType.braceDelta_eq_zero, braceDelta_append,
    heading.braceDelta_followedBy]
  decide

theorem lineFeed_not_mem_line :
    '\n' ∉ heading.line := by
  rw [line, List.mem_append, not_or]
  refine ⟨heading.isIndent.unbroken, ?_⟩
  apply
    not_mem_withKeyword heading.isName_modifier (by decide) (by decide)
  apply not_mem_withKeywords heading.areNames (by decide) (by decide)
  simp only [fromType, List.mem_append, not_or]
  exact
    ⟨heading.isType.lineFeed_not_mem, by decide,
      heading.lineFeed_not_mem_followedBy (by decide)⟩

end MethodHeading

/-- White space and a closing brace declare no method. -/
theorem method?_closing
    {indent : List Char}
    (isIndent : IsIndent indent) :
    method? (indent ++ ['}']) = none := by
  rw [method?, leftmost?_methodHeader?_of_white isIndent.white]
  decide

end TestScribe.Header

import TestScribe.Proofs.Header.Definition
import TestScribe.Proofs.Header.Heading

/-!
# Written definitions

A definition is written `[async] def NAME(PARAMETERS):` with any indentation.
The written line declares exactly this definition, is indented as far as the
white space in front of it reaches, and stays on its line.
-/

namespace TestScribe.Header

open TestScribe.Source TestScribe.Text

/-- A definition as it is written in an indented language. -/
structure DefinitionHeading extends Heading where
  indent : List Char
  isAsync : Bool
  isIndent : IsIndent indent

namespace DefinitionHeading

variable (heading : DefinitionHeading)

/-- The text from the keyword `def` on. -/
def fromDef : List Char :=
  withKeyword "def" (heading.followedBy [':'])

/-- The text after the indentation. -/
def fromAsync : List Char :=
  withOptionalKeyword "async" heading.isAsync heading.fromDef

/-- The written line. -/
def line : Line :=
  heading.indent ++ heading.fromAsync

theorem beginsVisible_fromDef :
    BeginsVisible heading.fromDef :=
  beginsVisible_withKeyword (by decide) _

theorem beginsVisible_fromAsync :
    BeginsVisible heading.fromAsync :=
  beginsVisible_withOptionalKeyword (by decide) _
    heading.beginsVisible_fromDef

/-! ## Reading the written line -/

theorem definitionForm?_fromDef :
    definitionForm? heading.fromDef =
      some (heading.signature none) := by
  have keyword :
      afterKeyword? "def" heading.fromDef =
        some (heading.followedBy [':']) :=
    afterKeyword?_withKeyword "def"
      (heading.beginsVisible_followedBy _)
  rw [definitionForm?, keyword]
  simp only [Option.bind_eq_bind, Option.bind_some,
    heading.namedParameters?_followedBy, heading.ofRaw_eq_signature]
  rfl

/-- Neither white space nor the keyword `async` hides the definition. -/
theorem definition?_line :
    definition? heading.line = some (heading.signature none) := by
  have fromDef :
      leftmost? definitionForm? heading.fromDef =
        some (heading.signature none) :=
    leftmost?_of_front heading.definitionForm?_fromDef
  have fromAsync :
      leftmost? definitionForm? heading.fromAsync =
        some (heading.signature none) := by
    rw [DefinitionHeading.fromAsync, withOptionalKeyword]
    split
    · rw [withKeyword, ← List.append_assoc, leftmost?_append]
      · exact fromDef
      · intro character member rest
        apply definitionForm?_cons_of_ne
        rintro rfl
        exact absurd member (by decide)
    · exact fromDef
  rw [definition?, line, leftmost?_append]
  · exact fromAsync
  · intro character member rest
    apply definitionForm?_cons_of_ne
    rintro rfl
    exact absurd (heading.isIndent.white _ member) (by decide)

/-! ## Characters of the written line -/

theorem indentation_line :
    indentation heading.line = heading.indent.length := by
  rw [indentation, line,
    takeWhile_append_of_boundary heading.isIndent.white
      heading.beginsVisible_fromAsync]

theorem lineFeed_not_mem_line :
    '\n' ∉ heading.line := by
  rw [line, List.mem_append, not_or]
  refine ⟨heading.isIndent.unbroken, ?_⟩
  apply
    not_mem_withOptionalKeyword (by decide) (by decide) (by decide)
  apply not_mem_withKeyword (by decide) (by decide) (by decide)
  exact heading.lineFeed_not_mem_followedBy (by decide)

end DefinitionHeading

end TestScribe.Header

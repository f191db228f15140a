import TestScribe.Header.Declaration
import TestScribe.Proofs.Header.Heading

/-!
# Written functions of brace languages

A function is written `[export] [async] function NAME(PARAMETERS)` with any
indentation, and a brace that opens its body.  The written line declares
exactly this function, opens one brace and stays on its line.  A line with a
closing brace only declares nothing.
-/

namespace TestScribe.Header

open TestScribe.Block TestScribe.Source TestScribe.Text

/-- A function as it is written in a brace language. -/
structure FunctionHeading extends Heading where
  indent : List Char
  exported : Bool
  isAsync : Bool
  isIndent : IsIndent indent
  notControl : String.ofList name ∉ controlKeywords

namespace FunctionHeading

variable (heading : FunctionHeading)

/-- The text from the keyword `function` on. -/
def fromFunction : List Char :=
  withKeyword "function" (heading.followedBy [' ', '{'])

/-- The text from the keyword `async` on, if it is written. -/
def fromAsync : List Char :=
  withOptionalKeyword "async" heading.isAsync heading.fromFunction

/-- The text after the indentation. -/
def fromExport : List Char :=
  withOptionalKeyword "export" heading.exported heading.fromAsync

/-- The written line. -/
def line : Line :=
  heading.indent ++ heading.fromExport

theorem beginsVisible_fromFunction :
    BeginsVisible heading.fromFunction :=
  beginsVisible_withKeyword (by decide) _

theorem beginsVisible_fromAsync :
    BeginsVisible heading.fromAsync :=
  beginsVisible_withOptionalKeyword (by decide) _
    heading.beginsVisible_fromFunction

theorem beginsVisible_fromExport :
    BeginsVisible heading.fromExport :=
  beginsVisible_withOptionalKeyword (by decide) _
    heading.beginsVisible_fromAsync

theorem fromAsync_ne_nil :
    heading.fromAsync ≠ [] :=
  withOptionalKeyword_ne_nil _ (withKeyword_ne_nil _ _)

theorem fromExport_ne_nil :
    heading.fromExport ≠ [] :=
  withOptionalKeyword_ne_nil _ heading.fromAsync_ne_nil

theorem endsVisible_fromExport :
    EndsVisible heading.fromExport := by
  apply endsVisible_withOptionalKeyword _ heading.fromAsync_ne_nil
  apply endsVisible_withOptionalKeyword _ (withKeyword_ne_nil _ _)
  apply endsVisible_withKeyword _ (heading.followedBy_ne_nil _)
  exact heading.endsVisible_followedBy (by decide) (by decide)

/-! ## Reading the written line -/

/-- The first form reads the text after the indentation. -/
theorem functionForm?_fromExport :
    functionForm? heading.fromExport =
      some ⟨heading.name, heading.raw⟩ := by
  have noAsync :
      afterKeyword? "async" heading.fromFunction = none :=
    afterKeyword?_withKeyword_of_ne
      (by decide) (by decide) (by decide) _
  have noExport :
      afterKeyword? "export" heading.fromAsync = none := by
    rw [fromAsync, withOptionalKeyword]
    split
    · exact
        afterKeyword?_withKeyword_of_ne
          (by decide) (by decide) (by decide) _
    · exact
        afterKeyword?_withKeyword_of_ne
          (by decide) (by decide) (by decide) _
  have keyword :
      afterKeyword? "function" heading.fromFunction =
        some (heading.followedBy [' ', '{']) :=
    afterKeyword?_withKeyword "function"
      (heading.beginsVisible_followedBy _)
  rw [functionForm?, fromExport,
    afterOptionalKeyword_withOptionalKeyword _
      heading.beginsVisible_fromAsync noExport,
    fromAsync,
    afterOptionalKeyword_withOptionalKeyword _
      heading.beginsVisible_fromFunction noAsync,
    keyword]
  simp only [Option.bind_eq_bind, Option.bind_some,
    heading.namedParameters?_followedBy]
  rfl

/-- The written line declares the function. -/
theorem declaration?_line :
    declaration? heading.line = some (heading.signature none) := by
  have trimmed : trim heading.line = heading.fromExport := by
    have bare :=
      trim_append_append heading.isIndent.white
        (List.forall_mem_nil _) heading.fromExport_ne_nil
        heading.beginsVisible_fromExport
        heading.endsVisible_fromExport
    rwa [List.append_nil] at bare
  have notControl :
      (!controlKeywords.contains (heading.signature none).name) =
        true := by
    have missing :
        controlKeywords.contains (String.ofList heading.name) = false := by
      simpa using heading.notControl
    rw [Heading.signature, missing]
    rfl
  rw [declaration?, declarationForms, List.findSome?_cons, trimmed,
    leftmost?_of_front heading.functionForm?_fromExport,
    Option.map_some, heading.ofRaw_eq_signature,
    Option.filter_some, if_pos notControl]

/-! ## Characters of the written line -/

theorem braceDelta_line :
    braceDelta heading.line = 1 := by
  rw [line, fromExport, fromAsync, fromFunction, braceDelta_append,
    braceDelta_of_white heading.isIndent.white,
    braceDelta_withOptionalKeyword (by decide),
    braceDelta_withOptionalKeyword (by decide),
    braceDelta_withKeyword (by decide),
    heading.braceDelta_followedBy]
  decide

theorem lineFeed_not_mem_line :
    '\n' ∉ heading.line := by
  rw [line, List.mem_append, not_or]
  refine ⟨heading.isIndent.unbroken, ?_⟩
  apply
    not_mem_withOptionalKeyword (by decide) (by decide) (by decide)
  apply
    not_mem_withOptionalKeyword (by decide) (by decide) (by decide)
  apply not_mem_withKeyword (by decide) (by decide) (by decide)
  exact heading.lineFeed_not_mem_followedBy (by decide)

end FunctionHeading

/-- White space and a closing brace declare nothing. -/
theorem declaration?_closing
    {indent : List Char}
    (isIndent : IsIndent indent) :
    declaration? (indent ++ ['}']) = none := by
  have trimmed : trim (indent ++ (['}'] ++ [])) = ['}'] :=
    trim_append_append isIndent.white
      (List.forall_mem_nil _) (by decide) (by decide) (by decide)
  rw [List.append_nil] at trimmed
  rw [declaration?, trimmed]
  decide

end TestScribe.Header

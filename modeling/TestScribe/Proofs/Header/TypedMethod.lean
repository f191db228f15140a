import TestScribe.Proofs.Header.MethodFront
import TestScribe.Proofs.Header.Signature

/-!
# Methods with a type

A method with a type is written `MODIFIER (keyword )*TYPE NAME(PARAMETERS)` with
any white space between its tokens and any text behind it.  The type is any run
of visible characters but a keyword modifier, and the name any word, a keyword
modifier too.  The line declares exactly what is written on it.
-/

namespace TestScribe.Header

open TestScribe.Source TestScribe.Text

/-- A written method with one run of visible characters for its type. -/
structure TypedMethod extends WrittenMethod where
  isType : IsVisibleType type
  notKeyword : String.ofList type ∉ keywordModifiers

/--
A written method declares its name, the entries of its list and its type, for any
row of keyword modifiers before the type, any white space between the tokens and
any text behind the list.
-/
theorem typed_method_declared
    (method : TypedMethod) :
    method? method.line =
      some
        ⟨String.ofList method.name,
          splitParameters (String.ofList method.raw),
          some (String.ofList method.type)⟩ :=
  method.method?_line_of_solid method.isType.nonempty
    method.isType.solid method.notKeyword

/-- A row of keywords, one of them written twice, and a keyword for the name. -/
theorem typed_method_declared_keyword_name :
    method?
        "\tprotected final  static final T[] native (int a, b) \x7b".toList =
      some ⟨"native", ["int a", "b"], some "T[]"⟩ := by
  let wideFinal : SpacedKeyword :=
    ⟨"final", [' ', ' '], by decide, by decide⟩
  let front : MethodFront :=
    ⟨['\t'], .ofKeyword "protected",
      [wideFinal, .ofKeyword "static", .ofKeyword "final"],
      by decide, by decide, by decide⟩
  let method : TypedMethod :=
    ⟨⟨front, "T[]".toList, [' '], "native".toList, [' '],
        "int a, b".toList, [' ', '{'], by decide, by decide, by decide,
        by decide⟩,
      by decide, by decide⟩
  have line :
      method.line =
        "\tprotected final  static final T[] native (int a, b) \x7b".toList := by
    decide
  have parameters : splitParameters "int a, b" = ["int a", "b"] := by
    decide
  rw [← line, ← parameters]
  exact typed_method_declared method

end TestScribe.Header

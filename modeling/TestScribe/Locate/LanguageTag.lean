import TestScribe.Text.LetterCase
/-!
# Language tags of files

A file's language is told from its extension.  Extensions of the known
languages give their tags; any other gives itself in lower case.
-/

namespace TestScribe.Locate

open TestScribe.Text

/-- The extensions of the languages that have a tag of their own. -/
def knownExtensions : List (String × String) :=
  [("ts", "typescript"), ("tsx", "typescript"), ("mts", "typescript"),
    ("cts", "typescript"), ("js", "javascript"), ("jsx", "javascript"),
    ("mjs", "javascript"), ("cjs", "javascript"), ("py", "python"),
    ("pyw", "python"), ("pyi", "python"), ("java", "java")]

/-- The language tag of a file extension, which may be given with dots in front
and in any letter case. -/
def languageOfExtension (extension : String) : String :=
  let lowered := lowercase (String.ofList (extension.toList.dropWhile (· == '.')))
  (knownExtensions.lookup lowered).getD lowered

end TestScribe.Locate

import TestScribe.Locate.LanguageTag
import TestScribe.Path.FileName
/-!
# The language of a file

A file's language is the one the caller names, or else the one its extension
tells.
-/

namespace TestScribe.Path

open TestScribe.Locate

/-- The language tag for a path, unless the caller names one. -/
def languageFor (path : String) (named : Option String) : String :=
  match named with
  | some tag => tag
  | none => languageOfExtension (String.ofList ((extension? path.toList).getD []))

end TestScribe.Path

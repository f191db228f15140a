import TestScribe.Path.FileName
/-!
# Where a test file goes

The tests for a source file are written below the source's directory, into a
file named after it.
-/

namespace TestScribe.Path

/-- The extension of a test file, with its dot. -/
def testFileExtension (language : String) : String :=
  match language with
  | "typescript" => ".ts"
  | "javascript" => ".js"
  | "python" => ".py"
  | "java" => ".java"
  | _ => ".js"

/-- The name of the test file for a source file whose stem is shown as this text. -/
def testFileName (stem : List Char) (language : String) : List Char :=
  stem ++ ".test".toList ++ (testFileExtension language).toList

/-- The path of the test file for a source file: in the test directory, taken
from the directory of the source.  Its name is made from the text that is shown for
the source's stem. -/
def testPath {α : Type} [DecidableEq α] [PathLetter α] (source : List α)
    (language testDirectory : String) : List α :=
  let directory := (parent? source).getD []
  let stem := ((fileStem? source).map shown).getD []
  join (join directory (ofText testDirectory.toList)) (ofText (testFileName stem language))

/-- The path of the test file for a source file whose path is text. -/
def testFilePath (source : String) (language testDirectory : String) : String :=
  String.ofList (testPath source.toList language testDirectory)

end TestScribe.Path

import TestScribe.Header.Method
import TestScribe.Locate.FunctionRecord
import TestScribe.Path.FileName
import TestScribe.Skeleton.Framework
import TestScribe.Text.LetterCase
/-!
# Test skeletons

A skeleton is a test file with the calls in place and the assertions left to be
written.  The call passes one placeholder for each parameter.
-/

namespace TestScribe.Skeleton

open TestScribe.Locate TestScribe.Text

/-- The placeholders that the call passes, one for each parameter. -/
def placeholderArguments (record : FunctionRecord) : String :=
  ", ".intercalate (record.parameters.map fun _ => "arg")

/-- The name of the module that a source file is imported as. -/
def moduleName (sourcePath : Option String) (unnamed : String) : String :=
  match sourcePath.bind fun path => Path.fileStem? path.toList with
  | some stem => String.ofList stem
  | none => unnamed

/-- The text of these lines, each ended by a line feed. -/
def textOfLines (lines : List String) : String :=
  String.join (lines.map (· ++ "\n"))

/-- The line that imports a function in a Jest skeleton. -/
def jestImport (record : FunctionRecord) (sourcePath : Option String) : String :=
  let path := "'../" ++ moduleName sourcePath "source" ++ "'"
  if record.language == "typescript" then
    "import \x7b " ++ record.name ++ " \x7d from " ++ path ++ ";"
  else
    "const \x7b " ++ record.name ++ " \x7d = require(" ++ path ++ ");"

/-- The call with placeholders. -/
def placeholderCall (record : FunctionRecord) : String :=
  record.name ++ "(" ++ placeholderArguments record ++ ")"

/-- The skeleton for Jest. -/
def jestSkeleton (record : FunctionRecord) (sourcePath : Option String) : String :=
  textOfLines
    [jestImport record sourcePath,
      "",
      "describe('" ++ record.name ++ "', () => \x7b",
      "    it('should work correctly', () => \x7b",
      "        // TODO: add test cases",
      "        // const result = " ++ placeholderCall record ++ ";",
      "        // expect(result).toBeDefined();",
      "    \x7d);",
      "",
      "    it('should handle edge cases', () => \x7b",
      "        // TODO: add edge case tests",
      "    \x7d);",
      "\x7d);"]

/-- The skeleton for pytest. -/
def pytestSkeleton (record : FunctionRecord) (sourcePath : Option String) : String :=
  textOfLines
    ["import pytest",
      "from " ++ moduleName sourcePath "module" ++ " import " ++ record.name,
      "",
      "def test_" ++ record.name ++ "():",
      "    \"\"\"Test " ++ record.name ++ "\"\"\"",
      "    # TODO: add test cases",
      "    # result = " ++ placeholderCall record,
      "    # assert result is not None",
      "",
      "def test_" ++ record.name ++ "_edge_cases():",
      "    \"\"\"Test " ++ record.name ++ " edge cases\"\"\"",
      "    # TODO: add edge case tests",
      "    pass"]

/-- The skeleton for JUnit. -/
def junitSkeleton (record : FunctionRecord) : String :=
  let returnType := record.returnType.getD Header.defaultReturnType
  textOfLines
    ["import org.junit.Test;",
      "import static org.junit.Assert.*;",
      "",
      "public class " ++ record.name ++ "Test \x7b",
      "",
      "    @Test",
      "    public void test" ++ capitalize record.name ++ "() \x7b",
      "        // TODO: add test cases",
      "        // " ++ returnType ++ " result = " ++ placeholderCall record ++ ";",
      "        // assertNotNull(result);",
      "    \x7d",
      "",
      "    @Test",
      "    public void test" ++ capitalize record.name ++ "EdgeCases() \x7b",
      "        // TODO: add edge case tests",
      "    \x7d",
      "\x7d"]

/-- The skeleton for a language without a framework of its own. -/
def genericSkeleton (record : FunctionRecord) : String :=
  textOfLines
    ["// Test for " ++ record.name,
      "// TODO: implement test cases",
      "",
      "function test" ++ capitalize record.name ++ "() \x7b",
      "    // basic behaviour",
      "    // const result = " ++ placeholderCall record ++ ";",
      "    // assert result !== undefined;",
      "\x7d",
      "",
      "function test" ++ capitalize record.name ++ "EdgeCases() \x7b",
      "    // edge cases",
      "\x7d"]

/-- The skeleton for a located function, in the framework of its language.  The
source path names the module to import from. -/
def basicTemplate (record : FunctionRecord) (sourcePath : Option String) : String :=
  match Framework.forLanguage record.language with
  | .jest => jestSkeleton record sourcePath
  | .pytest => pytestSkeleton record sourcePath
  | .junit => junitSkeleton record
  | .generic => genericSkeleton record

end TestScribe.Skeleton

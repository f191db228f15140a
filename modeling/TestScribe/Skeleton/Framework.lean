/-!
# Test frameworks

Every language has the test framework that is customary for it.
-/

namespace TestScribe.Skeleton

/-- The frameworks that skeletons are written for. -/
inductive Framework where
  /-- For TypeScript and JavaScript. -/
  | jest
  | pytest
  | junit
  /-- For every other language. -/
  | generic
  deriving DecidableEq

/-- The framework that is customary for a language. -/
def Framework.forLanguage (language : String) : Framework :=
  match language with
  | "typescript" => .jest
  | "javascript" => .jest
  | "python" => .pytest
  | "java" => .junit
  | _ => .generic

/-- The name of a framework. -/
def Framework.name : Framework → String
  | .jest => "jest"
  | .pytest => "pytest"
  | .junit => "junit"
  | .generic => "generic"

end TestScribe.Skeleton

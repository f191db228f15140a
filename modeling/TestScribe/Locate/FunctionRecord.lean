import TestScribe.Locate.Candidate
/-!
# Located functions

The record of a function that was located in a source text.
-/

namespace TestScribe.Locate

open TestScribe.Source

/-- A function as it was found in a source text. -/
structure FunctionRecord where
  name : String
  /-- The text from the first to the last line. -/
  code : String
  /-- Position of the header line, counted from zero. -/
  startLine : Nat
  endLine : Nat
  /-- The language tag as the caller gave it. -/
  language : String
  parameters : List String
  /-- The declared return type, for languages that spell one. -/
  returnType : Option String
  deriving DecidableEq

/-- The record of a candidate, or `none` if its lines are not all there. -/
def Candidate.record? (candidate : Candidate) (lines : List Line)
    (language : String) : Option FunctionRecord :=
  (excerpt? lines candidate.startLine candidate.endLine).map fun excerpt =>
    { name := candidate.signature.name
      code := String.ofList (joinLines excerpt)
      startLine := candidate.startLine
      endLine := candidate.endLine
      language := language
      parameters := candidate.signature.parameters
      returnType := candidate.signature.returnType }

end TestScribe.Locate

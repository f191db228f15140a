import TestScribe.Header.Reading
import TestScribe.Source.Lines
import TestScribe.Source.Signature
/-!
# Definitions in indented languages

A definition is written `def NAME(PARAMETERS)`, anywhere on its line.
-/

namespace TestScribe.Header

open TestScribe.Source

/-- The keyword `def`, a name and a parameter list, at the front of the text. -/
def definitionForm? (text : List Char) : Option Signature := do
  let ((name, parameters), _) ← namedParameters? (← afterKeyword? "def" text)
  return Signature.ofRaw name parameters

/-- The signature at the leftmost definition on a line. -/
def definition? (line : Line) : Option Signature :=
  leftmost? definitionForm? line

end TestScribe.Header

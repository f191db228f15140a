import TestScribe.Source.Lines
import TestScribe.Text.Whitespace
/-!
# Blocks by indentation

A block by indentation holds the lines below its header that are blank or are
indented deeper than the header, up to the first line that is neither.
-/

namespace TestScribe.Block

open TestScribe.Source TestScribe.Text

/-- Does the line continue a block whose header is indented this far? -/
def continuesBlock (width : Nat) (line : Line) : Bool :=
  isBlank line || width < indentation line

/-- The number of lines after its header that a block by indentation holds. -/
def indentExtent (header : Line) (below : List Line) : Nat :=
  (below.takeWhile (continuesBlock (indentation header))).length

end TestScribe.Block

import TestScribe.Source.Lines
/-!
# Blocks between braces

A block between braces is measured by counting.  The running count starts on
the header line and is looked at when a line ends: the block ends with the
first line at which as many braces were closed as were opened.
-/

namespace TestScribe.Block

open TestScribe.Source

/-- How much one character changes the number of open braces. -/
def braceStep (character : Char) : Int :=
  if character == '{' then 1 else if character == '}' then -1 else 0

/-- How much a text changes the number of open braces. -/
def braceDelta (text : List Char) : Int :=
  text.foldr (fun character delta => braceStep character + delta) 0

/-- The number of lines up to the one at which the running count is zero, or
of all the lines if it never is. -/
def linesToBalance : Int → List Line → Nat
  | _, [] => 0
  | depth, line :: below =>
    let depth := depth + braceDelta line
    if depth = 0 then 1 else 1 + linesToBalance depth below

/-- The number of lines after its header that a block between braces holds: none
if the header closes what it opens, all lines below if the block never ends. -/
def braceExtent (header : Line) (below : List Line) : Nat :=
  let depth := braceDelta header
  if depth = 0 ∧ '}' ∈ header then 0 else linesToBalance depth below

end TestScribe.Block

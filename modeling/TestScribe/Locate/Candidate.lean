import TestScribe.Locate.Measure
/-!
# The innermost enclosing block

A candidate is a header together with the extent of its block.  The scan goes
from the cursor line upward and takes the first candidate whose block reaches
the cursor.
-/

namespace TestScribe.Locate

open TestScribe.Source

/-- A header's signature with the positions of the first and the last line of
its block. -/
structure Candidate where
  signature : Signature
  startLine : Nat
  endLine : Nat
  deriving DecidableEq

/-- Does the block hold the line at this position? -/
def Candidate.contains (candidate : Candidate) (position : Nat) : Bool :=
  candidate.startLine ≤ position && position ≤ candidate.endLine

/-- The nearest candidate among the lines of `above` (nearest first) whose block
contains the cursor; `below` holds the lines after them, in order. -/
def nearestEnclosing? (header : HeaderKind) (block : BlockKind) (cursor : Nat) :
    List Line → List Line → Option Candidate
  | [], _ => none
  | line :: above, below =>
    match header.signature? line with
    | none => nearestEnclosing? header block cursor above (line :: below)
    | some signature =>
      let start := above.length
      let candidate : Candidate := ⟨signature, start, start + block.extent line below⟩
      if candidate.contains cursor then
        some candidate
      else
        nearestEnclosing? header block cursor above (line :: below)

/-- The candidate with the lowest header at or above the cursor whose block
contains the cursor. -/
def enclosing? (header : HeaderKind) (block : BlockKind) (lines : List Line)
    (cursor : Nat) : Option Candidate :=
  nearestEnclosing? header block cursor (lines.take (cursor + 1)).reverse
    (lines.drop (cursor + 1))

end TestScribe.Locate

import TestScribe.Block.Braces
import TestScribe.Block.Indentation
import TestScribe.Header.Declaration
import TestScribe.Header.Definition
import TestScribe.Header.Method
/-!
# Ways to recognise a header and to measure its block

A way of locating functions combines a kind of header with a kind of block.
-/

namespace TestScribe.Locate

open TestScribe.Block TestScribe.Header TestScribe.Source

/-- The kinds of header line. -/
inductive HeaderKind where
  /-- A declaration in a brace language. -/
  | declaration
  /-- A definition in an indented language. -/
  | definition
  /-- A method with an access modifier. -/
  | method
  deriving DecidableEq

/-- The signature that a line declares under a kind of header. -/
def HeaderKind.signature? : HeaderKind → Line → Option Signature
  | .declaration => declaration?
  | .definition => definition?
  | .method => method?

/-- The kinds of block. -/
inductive BlockKind where
  /-- Lines between braces. -/
  | braces
  /-- Lines indented deeper than the header. -/
  | indentation
  deriving DecidableEq

/-- The number of lines after its header that a block holds. -/
def BlockKind.extent : BlockKind → Line → List Line → Nat
  | .braces => braceExtent
  | .indentation => indentExtent

/-- The position of the last line of the block whose header is at `start`, if
there is a line at that position. -/
def BlockKind.end? (kind : BlockKind) (lines : List Line) (start : Nat) :
    Option Nat :=
  match lines.drop start with
  | [] => none
  | header :: below => some (start + kind.extent header below)

end TestScribe.Locate

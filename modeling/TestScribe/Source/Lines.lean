/-!
# Lines of a source text

A source text is cut at line feeds only, so that the positions of its lines
are those an editor shows: a text that ends with a line feed has an empty last
line, and a carriage return stays in its line.
-/

namespace TestScribe.Source

/-- One line of a source text, without its line feed. -/
abbrev Line := List Char

/-- The lines of a text; there is always at least one. -/
def linesOf (text : List Char) : List Line :=
  text.splitOn '\n'

/-- The text whose lines these are. -/
def joinLines (lines : List Line) : List Char :=
  ['\n'].intercalate lines

/-- The lines at the positions `first … last`, or `none` if those positions are
not all there.  `last` may stand just before `first`, for no lines at all. -/
def excerpt? (lines : List Line) (first last : Nat) : Option (List Line) :=
  if first ≤ last + 1 ∧ last < lines.length then
    some ((lines.drop first).take (last + 1 - first))
  else
    none

end TestScribe.Source

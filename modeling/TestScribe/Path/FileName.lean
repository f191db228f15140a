import TestScribe.Path.Components
/-!
# Stem and extension of a file name

A file name is cut at its last dot.  A dot that the name begins with does not
count, so a hidden name without another dot is all stem.
-/

namespace TestScribe.Path

variable {α : Type} [DecidableEq α] [PathLetter α]

/-- The parts of a name before and after its last dot, unless the name has no dot
or only one at the front. -/
def cutAtLastDot? (name : List α) : Option (List α × List α) :=
  let after := (name.reverse.takeWhile (· != dot)).reverse
  match name.reverse.dropWhile (· != dot) with
  | [] => none
  | [_] => none
  | _ :: before => some (before.reverse, after)

/-- The name without its extension. -/
def stemOfName (name : List α) : List α :=
  match cutAtLastDot? name with
  | some (stem, _) => stem
  | none => name

/-- The stem of a path's file name. -/
def fileStem? (path : List α) : Option (List α) :=
  (fileName? path).map stemOfName

/-- The extension of a path's file name. -/
def extension? (path : List α) : Option (List α) :=
  (fileName? path).bind fun name => (cutAtLastDot? name).map (·.2)

end TestScribe.Path

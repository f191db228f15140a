import TestScribe.Path.Letter
/-!
# Components of a path

A path is a row of segments between slashes.  Repeated slashes and segments
that are a single dot say nothing, except for a dot at the very front.  What is
left are the components; each is kept with the place in the path where it ends.
-/

namespace TestScribe.Path

variable {α : Type} [DecidableEq α] [PathLetter α]

/-- A meaningful part of a path. -/
inductive Component (α : Type) where
  /-- The slash that a path begins with. -/
  | root
  /-- A single dot at the front. -/
  | current
  /-- Two dots: one directory up. -/
  | up
  /-- The name of a file or directory. -/
  | name (text : List α)
  deriving DecidableEq

/-- The component that a segment stands for; `isFirst` tells whether it is the
first segment of its path. -/
def segmentComponent? (isFirst : Bool) (segment : List α) : Option (Component α) :=
  if segment == [] then none
  else if segment == [dot] then (if isFirst then some .current else none)
  else if segment == [dot, dot] then some .up
  else some (.name segment)

/-- The components of the segments, each with the place where it ends; the first
segment begins at `start`. -/
def segmentComponents (isFirst : Bool) (start : Nat) :
    List (List α) → List (Component α × Nat)
  | [] => []
  | segment :: segments =>
    let stop := start + segment.length
    let further := segmentComponents false (stop + 1) segments
    match segmentComponent? isFirst segment with
    | some component => (component, stop) :: further
    | none => further

/-- Does the path begin at the root? -/
def isAbsolute (path : List α) : Bool :=
  path.head? == some slash

/-- The components of a path, each with the place in it where it ends.  The root
comes before those of the segments. -/
def components (path : List α) : List (Component α × Nat) :=
  (if isAbsolute path then [(.root, 1)] else [])
    ++ segmentComponents true 0 (path.splitOn slash)

/-- The path without its last component; a path that is empty or the root has
no parent. -/
def parent? (path : List α) : Option (List α) :=
  match (components path).reverse with
  | [] => none
  | (.root, _) :: _ => none
  | [_] => some []
  | _ :: (_, stop) :: _ => some (path.take stop)

/-- The last component, if it is a name. -/
def fileName? (path : List α) : Option (List α) :=
  match (components path).getLast? with
  | some (.name text, _) => some text
  | _ => none

/-- The second path taken from the first: it replaces the first if it begins at
the root, and otherwise is appended behind a slash. -/
def join (base path : List α) : List α :=
  if isAbsolute path then path
  else if base == [] ∨ base.getLast? == some slash then base ++ path
  else base ++ slash :: path

end TestScribe.Path

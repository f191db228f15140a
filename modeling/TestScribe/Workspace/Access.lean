import TestScribe.Path.Components
import TestScribe.Workspace.FileTree
/-!
# Access to files

Reading a file, making directories and writing a file, as paths name them.  A
path is followed from segment to segment, and every segment but the last has to
lead into a directory that exists, even if the next one leads out of it again.
-/

namespace TestScribe.Workspace

open TestScribe.Path

/-- Why a file or directory cannot be used. -/
inductive AccessProblem where
  /-- There is nothing at the path, or at a directory on the way. -/
  | notFound
  /-- There is something at the path already. -/
  | alreadyExists
  /-- Something on the way is no directory. -/
  | notADirectory
  | isADirectory
  | invalidUtf8
  /-- The path holds the character with code point zero. -/
  | containsNul
  /-- Something else, in the words of the system. -/
  | other (description : String)
  deriving DecidableEq

/-- The problem in words. -/
def AccessProblem.message : AccessProblem → String
  | .notFound => "No such file or directory (os error 2)"
  | .alreadyExists => "File exists (os error 17)"
  | .notADirectory => "Not a directory (os error 20)"
  | .isADirectory => "Is a directory (os error 21)"
  | .invalidUtf8 => "stream did not contain valid UTF-8"
  | .containsNul => "file name contained an unexpected NUL byte"
  | .other description => description

/-- The directory that a step starts from has to be there. -/
def FileTree.requireDirectory (tree : FileTree) (location : Location) :
    Except AccessProblem Unit :=
  match tree.entry? location with
  | some .directory => .ok ()
  | some (.file _) => .error .notADirectory
  | none => .error .notFound

/-- Where one segment leads from a location. -/
def step (location : Location) (segment : List Char) : Location :=
  if segment = ['.'] then location
  else if segment = ['.', '.'] then location.dropLast
  else location ++ [segment]

/-- Where a list of segments leads, each from a directory that exists. -/
def FileTree.follow (tree : FileTree) :
    Location → List (List Char) → Except AccessProblem Location
  | location, [] => .ok location
  | location, segment :: segments => do
    tree.requireDirectory location
    tree.follow (step location segment) segments

/-- The segments of a path without the empty ones. -/
def segmentsOf (path : List Char) : List (List Char) :=
  (path.splitOn '/').filter (· != [])

/-- Does the path end with a slash? -/
def endsWithSlash (path : List Char) : Bool :=
  path.getLast? == some '/'

/-- Where the segments of a path start. -/
def FileTree.startOf (tree : FileTree) (path : List Char) : Location :=
  if isAbsolute path then [] else tree.workingDirectory

/-- A path has to be a text that the file system takes at all. -/
def checkPath (path : List Char) : Except AccessProblem Unit :=
  if path.contains '\x00' then .error .containsNul
  else if path = [] then .error .notFound
  else .ok ()

/-- The location that a path names; there need be nothing there yet.  A slash at
the end asks for a directory. -/
def FileTree.locate (tree : FileTree) (path : List Char) : Except AccessProblem Location := do
  checkPath path
  let segments := segmentsOf path ++ (if endsWithSlash path then [['.']] else [])
  tree.follow (tree.startOf path) segments

/-- The contents of the file at a path. -/
def FileTree.read (tree : FileTree) (path : String) : Except AccessProblem ByteArray := do
  match tree.entry? (← tree.locate path.toList) with
  | some (.file bytes) => .ok bytes
  | some .directory => .error .isADirectory
  | none => .error .notFound

/-- Does the path name a directory that exists? -/
def FileTree.isDirectory (tree : FileTree) (path : List Char) : Bool :=
  match tree.locate path with
  | .ok location => (tree.requireDirectory location).isOk
  | .error _ => false

/-- The directory that a path's last segment is in, and that segment.  There is no
such segment when the path leads only to its start, or ends with dots. -/
def FileTree.locateLast (tree : FileTree) (path : List Char) :
    Except AccessProblem (Location × Option (List Char)) := do
  checkPath path
  let segments := segmentsOf path
  let directory ← tree.follow (tree.startOf path) segments.dropLast
  tree.requireDirectory directory
  match segments.getLast? with
  | some segment =>
    if segment = ['.'] ∨ segment = ['.', '.'] then .ok (directory, none)
    else .ok (directory, some segment)
  | none => .ok (directory, none)

/-- The tree with a new directory at a path; the directory above has to be there. -/
def FileTree.makeDirectory (tree : FileTree) (path : List Char) :
    Except AccessProblem FileTree := do
  match ← tree.locateLast path with
  | (_, none) => .error .alreadyExists
  | (directory, some name) =>
    match tree.entry? (directory ++ [name]) with
    | some _ => .error .alreadyExists
    | none => .ok (tree.put (directory ++ [name]) .directory)

/-- What comes of an attempt to change the tree: the tree afterwards, and what went
wrong, if anything did. -/
abbrev Attempt := FileTree × Option AccessProblem

/-- Make one directory; one that is there already is as good as a new one. -/
def FileTree.ensureDirectory (tree : FileTree) (path : List Char) : Attempt :=
  match tree.makeDirectory path with
  | .ok tree => (tree, none)
  | .error problem => (tree, if tree.isDirectory path then none else some problem)

/-- Make a directory and those above it that are missing.  The number of rounds
bounds how many there are. -/
def FileTree.ensureDirectories : Nat → FileTree → List Char → Attempt
  | 0, tree, _ => (tree, some .notFound)
  | rounds + 1, tree, path =>
    if path = [] then
      (tree, none)
    else
      match tree.ensureDirectory path with
      | (tree, some .notFound) =>
        match parent? path with
        | none => (tree, some .notFound)
        | some above =>
          match FileTree.ensureDirectories rounds tree above with
          | (tree, none) => tree.ensureDirectory path
          | failed => failed
      | result => result

/-- Write a file at a path, in place of one that is there; the directory above has
to be there.  A write that finds its place is taken not to fail: the file is emptied
before it is filled, and that there may be no room for its bytes is left out. -/
def FileTree.writeFile (tree : FileTree) (path : List Char) (bytes : ByteArray) :
    Except AccessProblem FileTree := do
  match ← tree.locateLast path with
  | (_, none) => .error .isADirectory
  | (directory, some name) =>
    let location := directory ++ [name]
    if endsWithSlash path then
      .error .isADirectory
    else
      match tree.entry? location with
      | some .directory => .error .isADirectory
      | _ => .ok (tree.put location (.file bytes))

/-- Write a text to a path, making the directories above it first. -/
def FileTree.write (tree : FileTree) (path contents : String) : Attempt :=
  let characters := path.toList
  let (tree, problem) :=
    match parent? characters with
    | some above => FileTree.ensureDirectories (above.length + 1) tree above
    | none => (tree, none)
  match problem with
  | some problem => (tree, some problem)
  | none =>
    match tree.writeFile characters contents.toUTF8 with
    | .ok tree => (tree, none)
    | .error problem => (tree, some problem)

end TestScribe.Workspace

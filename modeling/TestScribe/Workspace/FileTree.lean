/-!
# A tree of files

The tree says which files and directories there are and what the files hold.
Each is known by its location: the names on the way from the root.
-/

namespace TestScribe.Workspace

/-- The names on the way from the root to a file or directory. -/
abbrev Location := List (List Char)

/-- What stands at a location. -/
inductive Entry where
  | file (bytes : ByteArray)
  | directory

/-- The files and directories, and the directory from which relative paths
start.  The root is always a directory. -/
structure FileTree where
  /-- Where relative paths start. -/
  workingDirectory : Location
  /-- The entries other than the root. -/
  entries : List (Location × Entry)

/-- What stands at a location, if anything. -/
def FileTree.entry? (tree : FileTree) (location : Location) : Option Entry :=
  if location = [] then some .directory else tree.entries.lookup location

/-- The contents of the file at a location, if there is one. -/
def FileTree.file? (tree : FileTree) (location : Location) : Option ByteArray :=
  match tree.entry? location with
  | some (.file bytes) => some bytes
  | _ => none

/-- The tree with this entry at a location, in place of any other. -/
def FileTree.put (tree : FileTree) (location : Location) (entry : Entry) : FileTree :=
  { tree with entries := (location, entry) :: tree.entries.filter (·.1 != location) }

/-- The tree that holds only its working directory and the directories above. -/
def FileTree.bare (workingDirectory : Location) : FileTree where
  workingDirectory := workingDirectory
  entries := ((List.range workingDirectory.length).map fun depth =>
    (workingDirectory.take (depth + 1), .directory))

/-- The files that differ from those of an earlier tree: new ones and ones whose
contents changed. -/
def FileTree.changesSince (tree earlier : FileTree) : List (Location × ByteArray) :=
  tree.entries.filterMap fun (location, entry) =>
    match entry with
    | .directory => none
    | .file bytes =>
      if (earlier.file? location).any (·.data == bytes.data) then none
      else some (location, bytes)

end TestScribe.Workspace

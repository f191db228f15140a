import Mathlib.Data.Set.Insert
import TestScribe.Workspace.FileTree

/-!
# What changes in a tree of files

A change to a tree is told by the locations whose files it may have touched:
every other file is the same as before, and no directory is gone.  New
directories do not count.  Putting one entry touches at most its own location,
and changes that follow each other touch what one of them touches.  A change that
only makes directories is told by the locations where it may have made them.
-/

namespace TestScribe.Workspace

/-! ## The entries of a tree -/

@[simp]
theorem FileTree.entry?_nil
    (tree : FileTree) :
    tree.entry? [] = some .directory := by
  rw [FileTree.entry?, if_pos rfl]

/-- There is a file exactly where the entry is one. -/
theorem FileTree.file?_eq_some_iff
    {tree : FileTree}
    {location : Location}
    {bytes : ByteArray} :
    tree.file? location = some bytes ↔
      tree.entry? location = some (.file bytes) := by
  rw [FileTree.file?]
  split
  · next found =>
    rw [found, Option.some.injEq, Option.some.injEq, Entry.file.injEq]
  · next other =>
    constructor
    · intro isFile
      cases isFile
    · intro isFile
      exact absurd isFile (other bytes)

/-- Removing the entries at one location changes no other location. -/
theorem lookup_filter_ne
    {location other : Location}
    (different : other ≠ location)
    (entries : List (Location × Entry)) :
    (entries.filter (·.1 != location)).lookup other =
      entries.lookup other := by
  induction entries with
  | nil => rfl
  | cons first entries ih =>
      rcases first with ⟨place, entry⟩
      by_cases here : place = location
      · have notOther : (other == place) = false := by
          rw [here, beq_eq_false_iff_ne]
          exact different
        rw [List.filter_cons_of_neg (by simp [here]),
          List.lookup_cons, notOther, ih]
      · rw [List.filter_cons_of_pos (by simp [here]),
          List.lookup_cons, List.lookup_cons, ih]

/-- What stands at a location after an entry was put at one below the root. -/
theorem FileTree.entry?_put
    (tree : FileTree)
    {location : Location}
    (belowRoot : location ≠ [])
    (entry : Entry)
    (other : Location) :
    FileTree.entry? (tree.put location entry) other =
      if other = location then some entry else tree.entry? other := by
  rw [FileTree.entry?, FileTree.put, FileTree.entry?, List.lookup_cons]
  by_cases same : other = location
  · rw [if_pos same, same, if_neg belowRoot, BEq.rfl]
  · have notSame : (other == location) = false :=
      beq_eq_false_iff_ne.mpr same
    rw [if_neg same, notSame, lookup_filter_ne same]

theorem FileTree.file?_put_of_ne
    (tree : FileTree)
    {location other : Location}
    (belowRoot : location ≠ [])
    (entry : Entry)
    (different : other ≠ location) :
    (tree.put location entry).file? other = tree.file? other := by
  rw [FileTree.file?, FileTree.entry?_put tree belowRoot,
    if_neg different, FileTree.file?]

theorem FileTree.file?_put_file
    (tree : FileTree)
    {location : Location}
    (belowRoot : location ≠ [])
    (bytes : ByteArray) :
    (tree.put location (.file bytes)).file? location = some bytes := by
  rw [FileTree.file?_eq_some_iff, FileTree.entry?_put tree belowRoot,
    if_pos rfl]

/-! ## What a change leaves alone -/

/-- Every file is as it was, and no file is new. -/
def FileTree.SameFiles
    (before after : FileTree) :
    Prop :=
  ∀ location, after.file? location = before.file? location

/--
The change from `before` to `after` keeps every directory, and every file
outside the touched locations.
-/
structure FileTree.ChangesOnly
    (touched : Set Location)
    (before after : FileTree) :
    Prop where
  workingDirectory : after.workingDirectory = before.workingDirectory
  directory :
    ∀ location,
      before.entry? location = some .directory →
        after.entry? location = some .directory
  file :
    ∀ location,
      location ∉ touched →
        after.file? location = before.file? location

section ChangesOnly

variable
    {touched : Set Location}
    {before between after tree : FileTree}
    {location : Location}

theorem FileTree.ChangesOnly.refl
    (touched : Set Location)
    (tree : FileTree) :
    tree.ChangesOnly touched tree where
  workingDirectory := rfl
  directory _ isDirectory := isDirectory
  file _ _ := rfl

theorem FileTree.ChangesOnly.trans
    (first : before.ChangesOnly touched between)
    (second : between.ChangesOnly touched after) :
    before.ChangesOnly touched after where
  workingDirectory :=
    second.workingDirectory.trans first.workingDirectory
  directory location isDirectory :=
    second.directory location (first.directory location isDirectory)
  file location untouched :=
    (second.file location untouched).trans (first.file location untouched)

theorem FileTree.ChangesOnly.mono
    {more : Set Location}
    (changes : before.ChangesOnly touched after)
    (included : touched ⊆ more) :
    before.ChangesOnly more after where
  workingDirectory := changes.workingDirectory
  directory := changes.directory
  file location untouched :=
    changes.file location (fun member => untouched (included member))

/-- A change that touches no file leaves the files as they were. -/
theorem FileTree.ChangesOnly.sameFiles
    (changes : before.ChangesOnly ∅ after) :
    before.SameFiles after := by
  intro location
  exact changes.file location (Set.notMem_empty location)

/-- A file that is put where no directory is touches its own location only. -/
theorem FileTree.changesOnly_put_file
    (belowRoot : location ≠ [])
    (noDirectory : tree.entry? location ≠ some .directory)
    (bytes : ByteArray) :
    tree.ChangesOnly {location} (tree.put location (.file bytes)) where
  workingDirectory := rfl
  directory other isDirectory := by
    have different : other ≠ location := by
      intro same
      exact noDirectory (same ▸ isDirectory)
    rw [FileTree.entry?_put tree belowRoot, if_neg different]
    exact isDirectory
  file _ untouched :=
    FileTree.file?_put_of_ne tree belowRoot (.file bytes) untouched

end ChangesOnly

/-! ## New directories -/

/-- The change from `before` to `after` makes directories, where nothing was and at
these locations only. -/
structure FileTree.AddsDirectories
    (added : Set Location)
    (before after : FileTree) :
    Prop where
  workingDirectory : after.workingDirectory = before.workingDirectory
  entry :
    ∀ location,
      after.entry? location = before.entry? location ∨
        location ∈ added ∧
          before.entry? location = none ∧
            after.entry? location = some .directory

section AddsDirectories

variable
    {added : Set Location}
    {before between after tree : FileTree}
    {location : Location}

theorem FileTree.AddsDirectories.refl
    (added : Set Location)
    (tree : FileTree) :
    tree.AddsDirectories added tree where
  workingDirectory := rfl
  entry _ := .inl rfl

theorem FileTree.AddsDirectories.trans
    (first : before.AddsDirectories added between)
    (second : between.AddsDirectories added after) :
    before.AddsDirectories added after where
  workingDirectory :=
    second.workingDirectory.trans first.workingDirectory
  entry location := by
    rcases second.entry location with same | ⟨member, free, made⟩
    · rw [same]
      exact first.entry location
    · right
      rcases first.entry location with same | ⟨-, -, madeBefore⟩
      · exact ⟨member, same.symm.trans free, made⟩
      · rw [madeBefore] at free
        cases free

theorem FileTree.AddsDirectories.mono
    {more : Set Location}
    (adds : before.AddsDirectories added after)
    (included : added ⊆ more) :
    before.AddsDirectories more after where
  workingDirectory := adds.workingDirectory
  entry location :=
    (adds.entry location).imp_right fun ⟨member, made⟩ =>
      ⟨included member, made⟩

/-- New directories touch no file. -/
theorem FileTree.AddsDirectories.changesOnly
    (adds : before.AddsDirectories added after) :
    before.ChangesOnly ∅ after where
  workingDirectory := adds.workingDirectory
  directory location isDirectory := by
    rcases adds.entry location with same | ⟨-, -, made⟩
    · rw [same, isDirectory]
    · exact made
  file location _ := by
    rcases adds.entry location with same | ⟨-, free, made⟩
    · rw [FileTree.file?, same, FileTree.file?]
    · rw [FileTree.file?, made, FileTree.file?, free]

theorem FileTree.addsDirectories_put
    (belowRoot : location ≠ [])
    (free : tree.entry? location = none) :
    tree.AddsDirectories {location} (tree.put location .directory) where
  workingDirectory := rfl
  entry other := by
    rw [FileTree.entry?_put tree belowRoot]
    split
    · next same => exact .inr ⟨same, same ▸ free, rfl⟩
    · exact .inl rfl

end AddsDirectories

end TestScribe.Workspace

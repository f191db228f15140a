import Mathlib.Data.List.Basic
import TestScribe.Proofs.Lookup
import TestScribe.Proofs.Workspace.FileTree
import TestScribe.Proofs.Workspace.Segments

/-!
# What reading and writing leave alone

Following a path asks only for directories, so a path that leads somewhere still
leads there when nothing but files and new directories have changed.  Making
directories therefore touches no file, whether it succeeds or not, and writing a
file touches the file at one location, which the path names afterwards.  A write
that fails touches no file.

Where the directories above the working directory are there, a path that leads
to a file ends with the name of that file.
-/

namespace TestScribe.Workspace

open TestScribe.Path

/-- A chain of steps that succeeds has a first step that succeeds. -/
theorem exists_of_bind_eq_ok
    {ε α β : Type}
    {first : Except ε α}
    {next : α → Except ε β}
    {result : β}
    (succeeds : first >>= next = .ok result) :
    ∃ middle, first = .ok middle ∧ next middle = .ok result := by
  cases first with
  | error problem => cases succeeds
  | ok middle => exact ⟨middle, rfl, succeeds⟩

variable
    {touched : Set Location}
    {tree before after : FileTree}
    {start location directory : Location}
    {path name : List Char}

/-! ## Following a path -/

theorem FileTree.requireDirectory_eq_ok_iff :
    tree.requireDirectory location = .ok () ↔
      tree.entry? location = some .directory := by
  rw [FileTree.requireDirectory]
  split
  · next isDirectory => simp [isDirectory]
  · next isFile => simp [isFile]
  · next nothing => simp [nothing]

/-- A first segment is followed from a directory. -/
theorem FileTree.follow_cons_eq_ok_iff
    {segment : List Char}
    {segments : List (List Char)} :
    tree.follow start (segment :: segments) = .ok location ↔
      tree.entry? start = some .directory ∧
        tree.follow (step start segment) segments = .ok location := by
  rw [FileTree.follow, ← FileTree.requireDirectory_eq_ok_iff]
  constructor
  · intro followed
    rcases exists_of_bind_eq_ok followed with ⟨⟨⟩, required, further⟩
    exact ⟨required, further⟩
  · rintro ⟨required, further⟩
    rw [required]
    exact further

/-- A last segment is followed from a directory. -/
theorem FileTree.follow_concat_eq_ok_iff
    {segments : List (List Char)}
    {segment : List Char} :
    tree.follow start (segments ++ [segment]) = .ok location ↔
      ∃ middle,
        tree.follow start segments = .ok middle ∧
        tree.entry? middle = some .directory ∧
        step middle segment = location := by
  induction segments generalizing start with
  | nil =>
      rw [List.nil_append, FileTree.follow_cons_eq_ok_iff]
      constructor
      · rintro ⟨isDirectory, followed⟩
        exact ⟨start, rfl, isDirectory, Except.ok.inj followed⟩
      · rintro ⟨middle, followed, isDirectory, same⟩
        cases followed
        exact ⟨isDirectory, congrArg Except.ok same⟩
  | cons first segments ih =>
      simp only [List.cons_append, FileTree.follow_cons_eq_ok_iff, ih]
      constructor
      · rintro ⟨isDirectory, middle, followed, further⟩
        exact ⟨middle, ⟨isDirectory, followed⟩, further⟩
      · rintro ⟨middle, ⟨isDirectory, followed⟩, further⟩
        exact ⟨isDirectory, middle, followed, further⟩

/-- Segments that lead somewhere lead there still. -/
theorem FileTree.ChangesOnly.follow
    (changes : before.ChangesOnly touched after)
    {segments : List (List Char)}
    (followed : before.follow start segments = .ok location) :
    after.follow start segments = .ok location := by
  induction segments generalizing start with
  | nil => exact followed
  | cons segment segments ih =>
      rw [FileTree.follow_cons_eq_ok_iff] at followed ⊢
      exact
        ⟨changes.directory start followed.1, ih followed.2⟩

/-- A path that leads somewhere leads there still. -/
theorem FileTree.ChangesOnly.locate
    (changes : before.ChangesOnly touched after)
    (located : before.locate path = .ok location) :
    after.locate path = .ok location := by
  rcases exists_of_bind_eq_ok located with ⟨⟨⟩, checked, followed⟩
  have sameStart : after.startOf path = before.startOf path := by
    rw [FileTree.startOf, FileTree.startOf, changes.workingDirectory]
  rw [FileTree.locate, checked, sameStart]
  exact changes.follow followed

/-! ## Reading a file -/

/-- Reading succeeds exactly on a path that leads to a file. -/
theorem FileTree.read_eq_ok_iff
    {path : String}
    {bytes : ByteArray} :
    tree.read path = .ok bytes ↔
      ∃ location,
        tree.locate path.toList = .ok location ∧
        tree.file? location = some bytes := by
  constructor
  · intro readable
    rcases exists_of_bind_eq_ok readable with ⟨location, located, found⟩
    refine ⟨location, located, ?_⟩
    rw [FileTree.file?]
    split at found
    · next isFile =>
      cases found
      rw [isFile]
    · cases found
    · cases found
  · rintro ⟨location, located, isFile⟩
    rw [FileTree.file?_eq_some_iff] at isFile
    rw [FileTree.read, located]
    simp only [bind, Except.bind, isFile]

/-- A file outside the touched locations reads as before. -/
theorem FileTree.ChangesOnly.read
    (changes : before.ChangesOnly touched after)
    {path : String}
    {bytes : ByteArray}
    (located : before.locate path.toList = .ok location)
    (isFile : before.file? location = some bytes)
    (untouched : location ∉ touched) :
    after.read path = .ok bytes := by
  rw [FileTree.read_eq_ok_iff]
  refine ⟨location, changes.locate located, ?_⟩
  rw [changes.file location untouched, isFile]

/-! ## The name at the end of a path -/

/-- The working directory and the directories above it are there. -/
def FileTree.HasWorkingDirectory
    (tree : FileTree) :
    Prop :=
  ∀ depth,
    tree.entry? (tree.workingDirectory.take depth) = some .directory

/-- In a tree with nothing else in it, the working directory is there. -/
theorem FileTree.hasWorkingDirectory_bare
    (workingDirectory : Location) :
    (FileTree.bare workingDirectory).HasWorkingDirectory := by
  intro depth
  rw [FileTree.entry?]
  split
  · rfl
  · next belowRoot =>
    have present :
        (workingDirectory.take depth, Entry.directory) ∈
          (FileTree.bare workingDirectory).entries := by
      rw [List.take_eq_nil_iff, not_or,
        ← List.length_eq_zero_iff] at belowRoot
      have someDepth : depth ≠ 0 := belowRoot.1
      have someLength : workingDirectory.length ≠ 0 := belowRoot.2
      have counted :
          min depth workingDirectory.length - 1 + 1 =
            min depth workingDirectory.length := by
        omega
      apply List.mem_map.mpr
      refine ⟨min depth workingDirectory.length - 1, ?_, ?_⟩
      · rw [List.mem_range]
        omega
      · rw [counted, ← List.take_eq_take_min]
    apply lookup_eq_some_of_mem present
    intro other member
    rcases List.mem_map.mp member with ⟨_, -, same⟩
    exact (Prod.mk.inj same).2.symm

theorem FileTree.ChangesOnly.hasWorkingDirectory
    (changes : before.ChangesOnly touched after)
    (rooted : before.HasWorkingDirectory) :
    after.HasWorkingDirectory := by
  intro depth
  rw [changes.workingDirectory]
  exact changes.directory _ (rooted depth)

/-- Every location strictly above this one is a directory. -/
def FileTree.HasDirectoriesAbove
    (tree : FileTree)
    (location : Location) :
    Prop :=
  ∀ depth,
    depth < location.length →
      tree.entry? (location.take depth) = some .directory

theorem FileTree.HasWorkingDirectory.startOf
    (rooted : tree.HasWorkingDirectory)
    (path : List Char) :
    tree.HasDirectoriesAbove (tree.startOf path) := by
  intro depth above
  rw [FileTree.startOf] at above ⊢
  split
  · rw [List.take_nil, FileTree.entry?_nil]
  · exact rooted depth

/-- From a directory with directories above it, a segment leads to a location
with directories above it. -/
theorem FileTree.HasDirectoriesAbove.step
    (above : tree.HasDirectoriesAbove location)
    (isDirectory : tree.entry? location = some .directory)
    (segment : List Char) :
    tree.HasDirectoriesAbove (step location segment) := by
  have reached :
      ∀ depth, tree.entry? (location.take depth) = some .directory := by
    intro depth
    rcases Nat.lt_or_ge depth location.length with shorter | whole
    · exact above depth shorter
    · rwa [List.take_of_length_le whole]
  rw [Workspace.step]
  split
  · exact above
  · split
    · intro depth inside
      rw [List.dropLast_eq_take, List.take_take]
      exact reached _
    · intro depth inside
      rw [List.length_append, List.length_singleton] at inside
      rw [List.take_append_of_le_length (Nat.le_of_lt_succ inside)]
      exact reached depth

theorem FileTree.HasDirectoriesAbove.follow
    (above : tree.HasDirectoriesAbove start)
    {segments : List (List Char)}
    (followed : tree.follow start segments = .ok location) :
    tree.HasDirectoriesAbove location := by
  induction segments generalizing start with
  | nil =>
      cases followed
      exact above
  | cons segment segments ih =>
      rw [FileTree.follow_cons_eq_ok_iff] at followed
      exact ih (above.step followed.1 segment) followed.2

/-- A segment that leads to a file names it. -/
theorem isPlainSegment_of_step
    (above : tree.HasDirectoriesAbove directory)
    (isDirectory : tree.entry? directory = some .directory)
    {segment : List Char}
    (nonempty : segment ≠ [])
    (noDirectory : tree.entry? (step directory segment) ≠ some .directory) :
    IsPlainSegment segment := by
  refine ⟨nonempty, ?_, ?_⟩
  · intro isCurrent
    rw [isCurrent] at noDirectory
    exact noDirectory isDirectory
  · intro isUp
    apply noDirectory
    have upward : step directory segment = directory.dropLast := by
      rw [isUp]
      rfl
    rw [upward, List.dropLast_eq_take]
    rcases List.eq_nil_or_concat directory with
      isRoot | ⟨front, last, whole⟩
    · rw [isRoot, List.take_nil, FileTree.entry?_nil]
    · apply above
      rw [whole, List.length_concat]
      omega

/-- A path that ends with a slash leads to a directory. -/
theorem FileTree.isDirectory_of_locate_slash
    (located : tree.locate path = .ok location)
    (slash : endsWithSlash path = true) :
    tree.entry? location = some .directory := by
  rcases exists_of_bind_eq_ok located with ⟨⟨⟩, -, followed⟩
  rw [slash, if_pos rfl, FileTree.follow_concat_eq_ok_iff] at followed
  rcases followed with ⟨middle, -, isDirectory, same⟩
  have stays : step middle ['.'] = middle := by
    rw [step, if_pos rfl]
  rwa [← same, stays]

/-- A path that ends with no slash has a last segment, which leads from a
directory to where the path leads. -/
theorem FileTree.exists_last_step_of_locate
    (located : tree.locate path = .ok location)
    (noSlash : endsWithSlash path = false) :
    ∃ front segment middle,
      segmentsOf path = front ++ [segment] ∧
      tree.follow (tree.startOf path) front = .ok middle ∧
      tree.entry? middle = some .directory ∧
      step middle segment = location := by
  rcases exists_of_bind_eq_ok located with ⟨⟨⟩, checked, followed⟩
  have nonempty : path ≠ [] := by
    intro isEmpty
    rw [isEmpty] at checked
    cases checked
  rcases List.eq_nil_or_concat (segmentsOf path) with
    nothing | ⟨front, segment, whole⟩
  · exact absurd nothing (segmentsOf_ne_nil nonempty noSlash)
  · rw [List.concat_eq_append] at whole
    rw [noSlash, if_neg Bool.false_ne_true, List.append_nil, whole,
      FileTree.follow_concat_eq_ok_iff] at followed
    rcases followed with ⟨middle, reached, isDirectory, same⟩
    exact ⟨front, segment, middle, whole, reached, isDirectory, same⟩

/-- A path that leads to a file ends with the name of the file. -/
theorem FileTree.exists_name_of_locate
    (rooted : tree.HasWorkingDirectory)
    (located : tree.locate path = .ok location)
    {bytes : ByteArray}
    (isFile : tree.file? location = some bytes) :
    ∃ name,
      IsPlainSegment name ∧
      (segmentsOf path).getLast? = some name ∧
      location.getLast? = some name := by
  have noDirectory : tree.entry? location ≠ some .directory := by
    rw [FileTree.file?_eq_some_iff.mp isFile]
    intro isDirectory
    cases isDirectory
  cases slash : endsWithSlash path with
  | true =>
      exact
        absurd (FileTree.isDirectory_of_locate_slash located slash)
          noDirectory
  | false =>
      rcases FileTree.exists_last_step_of_locate located slash with
        ⟨front, name, middle, whole, reached, isDirectory, rfl⟩
      have member : name ∈ segmentsOf path := by
        rw [whole]
        exact List.mem_concat_self
      have plain : IsPlainSegment name :=
        isPlainSegment_of_step ((rooted.startOf path).follow reached)
          isDirectory (ne_nil_of_mem_segmentsOf member) noDirectory
      refine ⟨name, plain, ?_, ?_⟩
      · rw [whole, List.getLast?_concat]
      · rw [step_of_isPlainSegment plain, List.getLast?_concat]

/-! ## Making directories -/

/-- A path has a last name where a directory is followed by a name. -/
theorem FileTree.locateLast_eq_ok_iff :
    tree.locateLast path = .ok (directory, some name) ↔
      checkPath path = .ok () ∧
        IsPlainSegment name ∧
        ∃ front,
          segmentsOf path = front ++ [name] ∧
          tree.follow (tree.startOf path) front = .ok directory ∧
          tree.entry? directory = some .directory := by
  constructor
  · intro found
    rcases exists_of_bind_eq_ok found with ⟨⟨⟩, checked, found⟩
    rcases exists_of_bind_eq_ok found with ⟨middle, followed, found⟩
    rcases exists_of_bind_eq_ok found with ⟨⟨⟩, required, found⟩
    rw [FileTree.requireDirectory_eq_ok_iff] at required
    split at found
    · next segment isLast =>
      split at found
      · cases found
      · next plain =>
        cases found
        have whole := List.dropLast_append_getLast? name isLast
        have member : name ∈ segmentsOf path :=
          List.mem_of_getLast? isLast
        rw [not_or] at plain
        exact
          ⟨checked,
            ⟨ne_nil_of_mem_segmentsOf member, plain.1, plain.2⟩,
            _, whole.symm, followed, required⟩
    · cases found
  · rintro ⟨checked, plain, front, whole, followed, isDirectory⟩
    have required := FileTree.requireDirectory_eq_ok_iff.mpr isDirectory
    have noDots : ¬ (name = ['.'] ∨ name = ['.', '.']) :=
      not_or.mpr ⟨plain.notCurrent, plain.notUp⟩
    rw [FileTree.locateLast, checked, whole]
    simp only [List.dropLast_concat, List.getLast?_concat, bind,
      Except.bind, followed, required, if_neg noDots]

/-- A new directory touches no file. -/
theorem FileTree.makeDirectory_changesOnly
    (made : tree.makeDirectory path = .ok after) :
    tree.ChangesOnly ∅ after := by
  rcases exists_of_bind_eq_ok made with ⟨⟨directory, last⟩, -, made⟩
  cases last with
  | none => cases made
  | some name =>
      simp only at made
      split at made
      · cases made
      · next free =>
        cases made
        exact (FileTree.addsDirectories_put (by simp) free).changesOnly

theorem FileTree.ensureDirectory_changesOnly
    (tree : FileTree)
    (path : List Char) :
    tree.ChangesOnly ∅ (tree.ensureDirectory path).1 := by
  rw [FileTree.ensureDirectory]
  split
  · next made => exact FileTree.makeDirectory_changesOnly made
  · exact FileTree.ChangesOnly.refl ∅ tree

/-- Making directories touches no file, also where it fails. -/
theorem FileTree.ensureDirectories_changesOnly
    (rounds : Nat)
    (tree : FileTree)
    (path : List Char) :
    tree.ChangesOnly ∅ (FileTree.ensureDirectories rounds tree path).1 := by
  -- The directories above are made with one round less.
  induction rounds generalizing tree path with
  | zero => exact FileTree.ChangesOnly.refl ∅ tree
  | succ rounds ih =>
      rw [FileTree.ensureDirectories]
      split
      · exact FileTree.ChangesOnly.refl ∅ tree
      · have first := FileTree.ensureDirectory_changesOnly tree path
        split
        · next between missing =>
          rw [missing] at first
          split
          · exact first
          · next above isAbove =>
            have further := first.trans (ih between above)
            split
            · next made ensured =>
              rw [ensured] at further
              exact
                further.trans
                  (FileTree.ensureDirectory_changesOnly made path)
            · exact further
        · exact first

/-! ## Writing a file -/

/--
The change from `before` to `after` writes these bytes to the path: it touches
at most the file at the location, where the path leads afterwards, and that file
holds the bytes.
-/
structure FileTree.Writes
    (path : String)
    (bytes : ByteArray)
    (location : Location)
    (before after : FileTree) :
    Prop extends before.ChangesOnly {location} after where
  located : after.locate path.toList = .ok location
  holds : after.file? location = some bytes

/-- What is written is what is read afterwards. -/
theorem FileTree.Writes.read
    {path : String}
    {bytes : ByteArray}
    (writes : before.Writes path bytes location after) :
    after.read path = .ok bytes :=
  FileTree.read_eq_ok_iff.mpr ⟨location, writes.located, writes.holds⟩

/-- A file is written where a path has a last name that is no directory. -/
theorem FileTree.writeFile_eq_ok_iff
    {bytes : ByteArray} :
    tree.writeFile path bytes = .ok after ↔
      ∃ directory name,
        tree.locateLast path = .ok (directory, some name) ∧
        endsWithSlash path = false ∧
        tree.entry? (directory ++ [name]) ≠ some .directory ∧
        after = tree.put (directory ++ [name]) (.file bytes) := by
  constructor
  · intro written
    rcases exists_of_bind_eq_ok written with
      ⟨⟨directory, last⟩, found, written⟩
    cases last with
    | none => cases written
    | some name =>
        simp only at written
        split at written
        · cases written
        · next noSlash =>
          split at written
          · cases written
          · next noDirectory =>
            cases written
            exact
              ⟨directory, name, found,
                Bool.eq_false_of_not_eq_true noSlash, noDirectory, rfl⟩
  · rintro ⟨directory, name, found, noSlash, noDirectory, rfl⟩
    rw [FileTree.writeFile, found]
    simp only [bind, Except.bind, noSlash, if_neg Bool.false_ne_true]

theorem FileTree.writeFile_writes
    {path : String}
    {bytes : ByteArray}
    (written : tree.writeFile path.toList bytes = .ok after) :
    ∃ location, tree.Writes path bytes location after := by
  rcases FileTree.writeFile_eq_ok_iff.mp written with
    ⟨directory, name, found, noSlash, noDirectory, rfl⟩
  rcases FileTree.locateLast_eq_ok_iff.mp found with
    ⟨checked, plain, front, whole, followed, isDirectory⟩
  have belowRoot : directory ++ [name] ≠ [] := by
    simp
  have changes :=
    FileTree.changesOnly_put_file belowRoot noDirectory bytes
  have located :
      tree.locate path.toList = .ok (directory ++ [name]) := by
    rw [FileTree.locate, checked, noSlash, if_neg Bool.false_ne_true,
      List.append_nil, whole]
    apply FileTree.follow_concat_eq_ok_iff.mpr
    exact
      ⟨directory, followed, isDirectory,
        step_of_isPlainSegment plain directory⟩
  exact
    ⟨directory ++ [name],
      { toChangesOnly := changes
        located := changes.locate located
        holds := FileTree.file?_put_file tree belowRoot bytes }⟩

/-- Make the directories above a path. -/
def FileTree.prepare
    (tree : FileTree)
    (path : List Char) :
    Attempt :=
  match parent? path with
  | some above =>
      FileTree.ensureDirectories (above.length + 1) tree above
  | none => (tree, none)

theorem FileTree.prepare_changesOnly
    (tree : FileTree)
    (path : List Char) :
    tree.ChangesOnly ∅ (tree.prepare path).1 := by
  rw [FileTree.prepare]
  split
  · exact FileTree.ensureDirectories_changesOnly _ tree _
  · exact FileTree.ChangesOnly.refl ∅ tree

/-- Writing first makes the directories above, then writes the file. -/
theorem FileTree.write_eq
    (tree : FileTree)
    (path contents : String) :
    tree.write path contents =
      match tree.prepare path.toList with
      | (prepared, some problem) => (prepared, some problem)
      | (prepared, none) =>
          match prepared.writeFile path.toList contents.toUTF8 with
          | .ok after => (after, none)
          | .error problem => (prepared, some problem) := by
  rw [FileTree.write, FileTree.prepare]
  cases parent? path.toList with
  | none => rfl
  | some above =>
      dsimp only
      rcases FileTree.ensureDirectories (above.length + 1) tree above with
        ⟨prepared, none | problem⟩
      · rfl
      · rfl

/-- A write that fails touches no file. -/
theorem FileTree.write_changesOnly_of_problem
    {path contents : String}
    {problem : AccessProblem}
    (failed : tree.write path contents = (after, some problem)) :
    tree.ChangesOnly ∅ after := by
  have changes := FileTree.prepare_changesOnly tree path.toList
  rw [FileTree.write_eq] at failed
  split at failed
  · next prepared other outcome =>
    rw [outcome] at changes
    cases failed
    exact changes
  · next prepared outcome =>
    rw [outcome] at changes
    split at failed
    · cases failed
    · cases failed
      exact changes

/-- A write that succeeds touches one file, which holds the text afterwards. -/
theorem FileTree.write_writes
    {path contents : String}
    (succeeded : tree.write path contents = (after, none)) :
    ∃ location, tree.Writes path contents.toUTF8 location after := by
  have changes := FileTree.prepare_changesOnly tree path.toList
  rw [FileTree.write_eq] at succeeded
  split at succeeded
  · cases succeeded
  · next prepared outcome =>
    rw [outcome] at changes
    split at succeeded
    · next other written =>
      cases succeeded
      rcases FileTree.writeFile_writes written with ⟨location, writes⟩
      exact
        ⟨location,
          { toChangesOnly :=
              (changes.mono (Set.empty_subset _)).trans
                writes.toChangesOnly
            located := writes.located
            holds := writes.holds }⟩
    · cases succeeded

end TestScribe.Workspace

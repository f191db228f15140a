import TestScribe.Proofs.Workspace.Access

/-!
# The way of a path

By its text a path passes one location after another, the last of which is the
one that it spells.  It can be followed into a directory exactly if directories
are at all of these, and wherever it leads, it leads to what it spells.  Where no
file stands on the way, a path that cannot be followed fails because something is
missing.
-/

namespace TestScribe.Workspace

open TestScribe.Path

/-! ## Passing locations -/

/-- The locations that segments pass, from where they start to where they lead. -/
def passed
    (start : Location) :
    List (List Char) → List Location
  | [] => [start]
  | segment :: segments => start :: passed (step start segment) segments

/-- Where segments lead. -/
def leadsTo
    (start : Location)
    (segments : List (List Char)) :
    Location :=
  segments.foldl step start

/-- The location that a path spells. -/
def FileTree.spelled
    (tree : FileTree)
    (path : List Char) :
    Location :=
  leadsTo (tree.startOf path) (segmentsOf path)

/-- The locations on the way to the one that a path spells. -/
def FileTree.onWay
    (tree : FileTree)
    (path : List Char) :
    List Location :=
  passed (tree.startOf path) (segmentsOf path).dropLast

variable
    {tree before after : FileTree}
    {start location : Location}
    {path segment : List Char}
    {segments front : List (List Char)}

theorem leadsTo_append
    (start : Location)
    (front back : List (List Char)) :
    leadsTo start (front ++ back) =
      leadsTo (leadsTo start front) back :=
  List.foldl_append

theorem leadsTo_concat
    (start : Location)
    (front : List (List Char))
    (segment : List Char) :
    leadsTo start (front ++ [segment]) =
      step (leadsTo start front) segment :=
  leadsTo_append start front [segment]

theorem leadsTo_mem_passed
    (start : Location)
    (segments : List (List Char)) :
    leadsTo start segments ∈ passed start segments := by
  induction segments generalizing start with
  | nil => exact List.mem_singleton_self start
  | cons segment segments ih =>
      exact List.mem_cons_of_mem start (ih (step start segment))

theorem start_mem_passed
    (start : Location)
    (segments : List (List Char)) :
    start ∈ passed start segments := by
  cases segments <;> exact List.mem_cons_self

/-- What segments pass is what a front of them passes, and then what the rest
passes from there. -/
theorem mem_passed_append_iff
    {back : List (List Char)} :
    location ∈ passed start (front ++ back) ↔
      location ∈ passed start front ∨
        location ∈ passed (leadsTo start front) back := by
  induction front generalizing start with
  | nil =>
      have here : location ∈ passed start [] ↔ location = start :=
        List.mem_singleton
      have inFront : location = start → location ∈ passed start back := by
        rintro rfl
        exact start_mem_passed location back
      rw [List.nil_append, here]
      exact (or_iff_right_of_imp inFront).symm
  | cons segment front ih =>
      rw [List.cons_append, passed, passed, List.mem_cons, List.mem_cons,
        ih, or_assoc]
      rfl

theorem mem_passed_concat_iff :
    location ∈ passed start (front ++ [segment]) ↔
      location ∈ passed start front ∨
        location = leadsTo start (front ++ [segment]) := by
  have last :
      location ∈ passed (leadsTo start front) [segment] ↔
        location = leadsTo start front ∨
          location = leadsTo start (front ++ [segment]) := by
    rw [leadsTo_append, passed, List.mem_cons, passed,
      List.mem_singleton]
    rfl
  have inFront :
      location = leadsTo start front → location ∈ passed start front := by
    rintro rfl
    exact leadsTo_mem_passed start front
  rw [mem_passed_append_iff, last, ← or_assoc,
    or_iff_left_of_imp inFront]

/-- Single dots lead nowhere. -/
theorem leadsTo_of_dots
    {dots : List (List Char)}
    (areDots : ∀ dot ∈ dots, dot = ['.'])
    (start : Location) :
    leadsTo start dots = start ∧
      ∀ location ∈ passed start dots, location = start := by
  induction dots with
  | nil => exact ⟨rfl, fun _ member => List.mem_singleton.mp member⟩
  | cons dot dots ih =>
      have stays : step start dot = start := by
        rw [areDots dot List.mem_cons_self, step, if_pos rfl]
      rcases ih fun other member =>
          areDots other (List.mem_cons_of_mem dot member) with
        ⟨leads, passes⟩
      rw [leadsTo, List.foldl_cons, passed, stays]
      refine ⟨leads, ?_⟩
      intro location member
      rcases List.mem_cons.mp member with here | later
      · exact here
      · exact passes location later

/-- What a slash at the end asks for is a dot. -/
theorem eq_dot_of_endsWithSlash
    (path : List Char) :
    ∀ dot ∈ if endsWithSlash path then [['.']] else [], dot = ['.'] := by
  split
  · exact List.forall_mem_singleton.mpr rfl
  · exact fun _ member => absurd member List.not_mem_nil

/-! ## Ways through directories -/

/-- Directories are at all locations that the segments pass. -/
def FileTree.HasWay
    (tree : FileTree)
    (start : Location)
    (segments : List (List Char)) :
    Prop :=
  ∀ place ∈ passed start segments, tree.entry? place = some .directory

/-- No file is at a location that the segments pass. -/
def FileTree.IsClear
    (tree : FileTree)
    (start : Location)
    (segments : List (List Char)) :
    Prop :=
  ∀ place ∈ passed start segments, tree.file? place = none

theorem FileTree.hasWay_nil_iff :
    tree.HasWay start [] ↔ tree.entry? start = some .directory :=
  List.forall_mem_singleton

theorem FileTree.hasWay_cons_iff :
    tree.HasWay start (segment :: segments) ↔
      tree.entry? start = some .directory ∧
        tree.HasWay (step start segment) segments :=
  List.forall_mem_cons

/-- Segments can be followed into a directory exactly if they pass directories
only. -/
theorem FileTree.follow_into_directory_iff :
    (tree.follow start segments = .ok location ∧
        tree.entry? location = some .directory) ↔
      location = leadsTo start segments ∧ tree.HasWay start segments := by
  induction segments generalizing start with
  | nil =>
      rw [FileTree.hasWay_nil_iff]
      constructor
      · rintro ⟨followed, isDirectory⟩
        cases followed
        exact ⟨rfl, isDirectory⟩
      · rintro ⟨rfl, isDirectory⟩
        exact ⟨rfl, isDirectory⟩
  | cons segment segments ih =>
      rw [FileTree.follow_cons_eq_ok_iff, and_assoc, ih,
        FileTree.hasWay_cons_iff]
      exact and_left_comm

theorem FileTree.HasWay.follow
    (way : tree.HasWay start segments) :
    tree.follow start segments = .ok (leadsTo start segments) :=
  (FileTree.follow_into_directory_iff.mpr ⟨rfl, way⟩).1

theorem FileTree.HasWay.leadsTo
    (way : tree.HasWay start segments) :
    tree.entry? (leadsTo start segments) = some .directory :=
  way _ (leadsTo_mem_passed start segments)

theorem FileTree.HasWay.requireDirectory
    (way : tree.HasWay start segments) :
    tree.requireDirectory (Workspace.leadsTo start segments) = .ok () :=
  FileTree.requireDirectory_eq_ok_iff.mpr way.leadsTo

theorem FileTree.hasWay_concat_iff :
    tree.HasWay start (front ++ [segment]) ↔
      tree.HasWay start front ∧
        tree.entry? (leadsTo start (front ++ [segment])) =
          some .directory := by
  simp only [FileTree.HasWay, mem_passed_concat_iff, or_imp, forall_and,
    forall_eq]

theorem FileTree.HasWay.of_append
    {back : List (List Char)}
    (way : tree.HasWay start (front ++ back)) :
    tree.HasWay start front :=
  fun place member => way place (mem_passed_append_iff.mpr (.inl member))

/-- Single dots behind a way change nothing. -/
theorem FileTree.HasWay.append_dots
    {dots : List (List Char)}
    (way : tree.HasWay start front)
    (areDots : ∀ dot ∈ dots, dot = ['.']) :
    tree.HasWay start (front ++ dots) := by
  intro place member
  rcases mem_passed_append_iff.mp member with inFront | behind
  · exact way place inFront
  · rw [(leadsTo_of_dots areDots _).2 place behind]
    exact way.leadsTo

theorem FileTree.HasWay.isClear
    (way : tree.HasWay start segments) :
    tree.IsClear start segments := by
  intro place member
  rw [FileTree.file?, way place member]

theorem FileTree.IsClear.of_append
    {back : List (List Char)}
    (clear : tree.IsClear start (front ++ back)) :
    tree.IsClear start front :=
  fun place member =>
    clear place (mem_passed_append_iff.mpr (.inl member))

theorem FileTree.IsClear.dropLast
    (clear : tree.IsClear start segments) :
    tree.IsClear start segments.dropLast := by
  rcases List.dropLast_prefix segments with ⟨back, whole⟩
  have clearWhole : tree.IsClear start (segments.dropLast ++ back) := by
    rwa [whole]
  exact clearWhole.of_append

theorem FileTree.ChangesOnly.isClear
    (changes : before.ChangesOnly ∅ after)
    (clear : before.IsClear start segments) :
    after.IsClear start segments := by
  intro place member
  rw [changes.file place (Set.notMem_empty place), clear place member]

/-- A way stays one when files and new directories are put elsewhere. -/
theorem FileTree.ChangesOnly.hasWay
    {touched : Set Location}
    (changes : before.ChangesOnly touched after)
    (way : before.HasWay start segments) :
    after.HasWay start segments :=
  fun place member => changes.directory place (way place member)

theorem FileTree.requireDirectory_eq_notFound
    (noFile : tree.file? location = none)
    (noDirectory : tree.entry? location ≠ some .directory) :
    tree.requireDirectory location = .error .notFound := by
  rw [FileTree.requireDirectory]
  split
  · next isDirectory => exact absurd isDirectory noDirectory
  · next isFile =>
    rw [FileTree.file?, isFile] at noFile
    cases noFile
  · rfl

/-- Where no file stands on the way, a step that fails does so because nothing is
there. -/
theorem FileTree.IsClear.bind_eq_notFound
    {α : Type}
    (clear : tree.IsClear start segments)
    (noWay : ¬ tree.HasWay start segments)
    (next : Location → Except AccessProblem α) :
    (do
      let directory ← tree.follow start segments
      tree.requireDirectory directory
      next directory) = .error .notFound := by
  induction segments generalizing start with
  | nil =>
      rw [FileTree.hasWay_nil_iff] at noWay
      have required :=
        FileTree.requireDirectory_eq_notFound
          (clear start (start_mem_passed start [])) noWay
      simp only [FileTree.follow, bind, Except.bind, required]
  | cons segment segments ih =>
      by_cases isDirectory : tree.entry? start = some .directory
      · rw [FileTree.hasWay_cons_iff, not_and] at noWay
        have further :
            tree.IsClear (step start segment) segments :=
          fun place member =>
            clear place (List.mem_cons_of_mem start member)
        rw [FileTree.follow,
          FileTree.requireDirectory_eq_ok_iff.mpr isDirectory]
        exact ih further (noWay isDirectory)
      · have required :=
          FileTree.requireDirectory_eq_notFound
            (clear start (start_mem_passed start (segment :: segments)))
            isDirectory
        rw [FileTree.follow, required]
        rfl

/-! ## What a path spells -/

theorem FileTree.startOf_congr
    {other : List Char}
    (sameRoot : isAbsolute other = isAbsolute path)
    (sameWorkingDirectory :
      after.workingDirectory = before.workingDirectory) :
    after.startOf other = before.startOf path := by
  rw [FileTree.startOf, FileTree.startOf, sameRoot,
    sameWorkingDirectory]

theorem FileTree.ChangesOnly.spelled_eq
    {touched : Set Location}
    (changes : before.ChangesOnly touched after)
    (path : List Char) :
    after.spelled path = before.spelled path := by
  rw [FileTree.spelled, FileTree.spelled,
    FileTree.startOf_congr rfl changes.workingDirectory]

theorem FileTree.leadsTo_of_follow
    (followed : tree.follow start segments = .ok location) :
    location = leadsTo start segments := by
  induction segments generalizing start with
  | nil =>
      cases followed
      rfl
  | cons segment segments ih =>
      rw [FileTree.follow_cons_eq_ok_iff] at followed
      exact ih followed.2

/-- A path that leads somewhere leads to the location that it spells. -/
theorem FileTree.eq_spelled_of_locate
    (located : tree.locate path = .ok location) :
    location = tree.spelled path := by
  rcases exists_of_bind_eq_ok located with ⟨⟨⟩, -, followed⟩
  rw [FileTree.leadsTo_of_follow followed, leadsTo_append,
    (leadsTo_of_dots (eq_dot_of_endsWithSlash path) _).1]
  rfl

/-- The file that is written is the one that the path spells. -/
theorem FileTree.Writes.eq_spelled
    {path : String}
    {bytes : ByteArray}
    (writes : before.Writes path bytes location after) :
    location = before.spelled path.toList :=
  (FileTree.eq_spelled_of_locate writes.located).trans
    (writes.toChangesOnly.spelled_eq path.toList)

end TestScribe.Workspace

import TestScribe.Proofs.Path.Parent
import TestScribe.Proofs.Workspace.Way

/-!
# Where files can be written

Where no file stands on the way of a path, making directories makes all that are
missing and no other.  This settles when a file can be written: the path has to
end with a name, no file may stand on the way to that name, and it may not name a
directory, be it one that is only made on the way.
-/

namespace TestScribe.Workspace

open TestScribe.Path

variable
    {tree before after : FileTree}
    {start : Location}
    {path segment : List Char}
    {front : List (List Char)}

/-! ## Making one directory -/

theorem FileTree.HasWorkingDirectory.entry?_startOf
    (rooted : tree.HasWorkingDirectory)
    (path : List Char) :
    tree.entry? (tree.startOf path) = some .directory := by
  rw [FileTree.startOf]
  split
  · exact FileTree.entry?_nil tree
  · have whole := rooted tree.workingDirectory.length
    rwa [List.take_length] at whole

theorem checkPath_eq_ok_iff :
    checkPath path = .ok () ↔ '\x00' ∉ path ∧ path ≠ [] := by
  rw [checkPath]
  split
  · next hasNul =>
    have member : '\x00' ∈ path :=
      List.contains_iff_mem.mp hasNul
    simp [member]
  · next noNul =>
    rw [List.contains_iff_mem] at noNul
    split
    · next isEmpty => simp [isEmpty]
    · next nonempty => simp [noNul, nonempty]

/-- A path names a directory exactly if it has a way. -/
theorem FileTree.isDirectory_iff
    (checked : checkPath path = .ok ()) :
    tree.isDirectory path = true ↔
      tree.HasWay (tree.startOf path) (segmentsOf path) := by
  have located :
      tree.locate path =
        tree.follow (tree.startOf path)
          (segmentsOf path ++
            if endsWithSlash path then [['.']] else []) := by
    rw [FileTree.locate, checked]
    rfl
  rw [FileTree.isDirectory, located]
  constructor
  · intro isDirectory
    split at isDirectory
    · next location followed =>
      have required : tree.entry? location = some .directory := by
        rw [← FileTree.requireDirectory_eq_ok_iff]
        cases outcome : tree.requireDirectory location with
        | ok => rfl
        | error problem =>
            rw [outcome] at isDirectory
            cases isDirectory
      exact
        (FileTree.follow_into_directory_iff.mp
          ⟨followed, required⟩).2.of_append
    · cases isDirectory
  · intro way
    have further := way.append_dots (eq_dot_of_endsWithSlash path)
    simp only [further.follow, further.requireDirectory]
    rfl

/-- A directory that is there need not be made. -/
theorem FileTree.HasWay.ensureDirectory
    (way : tree.HasWay (tree.startOf path) (segmentsOf path))
    (checked : checkPath path = .ok ())
    (isThere : tree.makeDirectory path = .error .alreadyExists) :
    tree.ensureDirectory path = (tree, none) := by
  rw [FileTree.ensureDirectory, isThere]
  simp only [(FileTree.isDirectory_iff checked).mpr way, if_true]

/--
Making directories has succeeded: there is a way now, and only directories that
the path passes are new.
-/
structure FileTree.MakesWay
    (path : List Char)
    (before after : FileTree) :
    Prop where
  adds :
    before.AddsDirectories
      {place | place ∈ passed (before.startOf path) (segmentsOf path)}
      after
  way : after.HasWay (before.startOf path) (segmentsOf path)

theorem FileTree.HasWay.makesWay
    (way : tree.HasWay (tree.startOf path) (segmentsOf path)) :
    tree.MakesWay path tree :=
  ⟨FileTree.AddsDirectories.refl _ tree, way⟩

/-- Dots at the end of a way lead to a directory on it. -/
theorem FileTree.HasWay.concat_of_dots
    (rooted : tree.HasWorkingDirectory)
    (way : tree.HasWay (tree.startOf path) front)
    (dotted : segment = ['.'] ∨ segment = ['.', '.']) :
    tree.HasWay (tree.startOf path) (front ++ [segment]) := by
  rw [FileTree.hasWay_concat_iff, leadsTo_concat]
  refine ⟨way, ?_⟩
  by_contra noDirectory
  have nonempty : segment ≠ [] := by
    rcases dotted with rfl | rfl <;> simp
  have plain :=
    isPlainSegment_of_step ((rooted.startOf path).follow way.follow)
      way.leadsTo nonempty noDirectory
  rcases dotted with isDot | isUp
  · exact plain.notCurrent isDot
  · exact plain.notUp isUp

/-- Behind a way of directories the path has a last name, or has led to a directory
already. -/
theorem FileTree.locateLast_of_hasWay
    (rooted : tree.HasWorkingDirectory)
    (checked : checkPath path = .ok ())
    (way :
      tree.HasWay (tree.startOf path) (segmentsOf path).dropLast) :
    (∃ directory,
        tree.locateLast path = .ok (directory, none) ∧
          tree.HasWay (tree.startOf path) (segmentsOf path)) ∨
      ∃ front name,
        segmentsOf path = front ++ [name] ∧
          IsPlainSegment name ∧
          tree.HasWay (tree.startOf path) front ∧
          tree.locateLast path =
            .ok (leadsTo (tree.startOf path) front, some name) := by
  have followed := way.follow
  have required := way.requireDirectory
  rcases List.eq_nil_or_concat (segmentsOf path) with
    nothing | ⟨front, segment, segments⟩
  · refine .inl ⟨leadsTo (tree.startOf path) [], ?_, ?_⟩
    · rw [nothing, List.dropLast_nil] at followed required
      rw [FileTree.locateLast, checked, nothing]
      simp only [List.dropLast_nil, List.getLast?_nil, bind, Except.bind,
        followed, required]
    · rwa [nothing] at way ⊢
  · rw [List.concat_eq_append] at segments
    rw [segments, List.dropLast_concat] at way followed required
    by_cases dotted : segment = ['.'] ∨ segment = ['.', '.']
    · refine .inl ⟨leadsTo (tree.startOf path) front, ?_, ?_⟩
      · rw [FileTree.locateLast, checked, segments]
        simp only [List.dropLast_concat, List.getLast?_concat, bind,
          Except.bind, followed, required, if_pos dotted]
      · rw [segments]
        exact way.concat_of_dots rooted dotted
    · rw [not_or] at dotted
      have member : segment ∈ segmentsOf path := by
        rw [segments]
        exact List.mem_concat_self
      have plain : IsPlainSegment segment :=
        ⟨ne_nil_of_mem_segmentsOf member, dotted.1, dotted.2⟩
      refine .inr ⟨front, segment, segments, plain, way, ?_⟩
      exact
        FileTree.locateLast_eq_ok_iff.mpr
          ⟨checked, plain, front, segments, followed, way.leadsTo⟩

/-- Behind a way of directories, one more directory can be made. -/
theorem FileTree.exists_ensureDirectory_of_hasWay
    (rooted : tree.HasWorkingDirectory)
    (checked : checkPath path = .ok ())
    (way :
      tree.HasWay (tree.startOf path) (segmentsOf path).dropLast)
    (clear : tree.IsClear (tree.startOf path) (segmentsOf path)) :
    ∃ after,
      tree.ensureDirectory path = (after, none) ∧
        tree.MakesWay path after := by
  rcases FileTree.locateLast_of_hasWay rooted checked way with
    ⟨directory, found, whole⟩ |
      ⟨front, name, segments, plain, wayAbove, found⟩
  · have isThere : tree.makeDirectory path = .error .alreadyExists := by
      rw [FileTree.makeDirectory, found]
      rfl
    exact ⟨tree, whole.ensureDirectory checked isThere, whole.makesWay⟩
  · have target :
        leadsTo (tree.startOf path) (segmentsOf path) =
          leadsTo (tree.startOf path) front ++ [name] := by
      rw [segments, leadsTo_concat, step_of_isPlainSegment plain]
    have isPassed :=
      leadsTo_mem_passed (tree.startOf path) (segmentsOf path)
    have noFile := clear _ isPassed
    rw [target] at isPassed noFile
    cases there :
        tree.entry? (leadsTo (tree.startOf path) front ++ [name]) with
    | none =>
        have adds := FileTree.addsDirectories_put (by simp) there
        have made :
            tree.makeDirectory path =
              .ok
                (tree.put (leadsTo (tree.startOf path) front ++ [name])
                  .directory) := by
          rw [FileTree.makeDirectory, found]
          simp only [bind, Except.bind, there]
        refine ⟨_, by rw [FileTree.ensureDirectory, made], ?_, ?_⟩
        · apply adds.mono
          rintro place rfl
          exact isPassed
        · rw [segments, FileTree.hasWay_concat_iff, ← segments, target,
            FileTree.entry?_put tree (by simp), if_pos rfl]
          exact ⟨adds.changesOnly.hasWay wayAbove, rfl⟩
    | some entry =>
        have isThere : tree.makeDirectory path = .error .alreadyExists := by
          rw [FileTree.makeDirectory, found]
          simp only [bind, Except.bind, there]
        cases entry with
        | file bytes =>
            rw [FileTree.file?, there] at noFile
            cases noFile
        | directory =>
            have whole :
                tree.HasWay (tree.startOf path) (segmentsOf path) := by
              rw [segments, FileTree.hasWay_concat_iff, ← segments,
                target]
              exact ⟨wayAbove, there⟩
            exact
              ⟨tree, whole.ensureDirectory checked isThere,
                whole.makesWay⟩

/-- Where a directory on the way is missing, nothing is made. -/
theorem FileTree.ensureDirectory_of_not_hasWay
    (checked : checkPath path = .ok ())
    (clear :
      tree.IsClear (tree.startOf path) (segmentsOf path).dropLast)
    (noWay :
      ¬ tree.HasWay (tree.startOf path) (segmentsOf path).dropLast) :
    tree.ensureDirectory path = (tree, some .notFound) := by
  have missing : tree.makeDirectory path = .error .notFound := by
    have notLocated : tree.locateLast path = .error .notFound := by
      rw [FileTree.locateLast, checked]
      exact clear.bind_eq_notFound noWay _
    rw [FileTree.makeDirectory, notLocated]
    rfl
  have noDirectory : tree.isDirectory path = false := by
    rw [Bool.eq_false_iff, ne_eq, FileTree.isDirectory_iff checked]
    intro way
    rcases List.eq_nil_or_concat (segmentsOf path) with
      nothing | ⟨front, segment, segments⟩
    · rw [nothing] at noWay way
      exact noWay way
    · rw [List.concat_eq_append] at segments
      rw [segments, List.dropLast_concat] at noWay
      rw [segments] at way
      exact noWay way.of_append
  rw [FileTree.ensureDirectory, missing]
  simp only [noDirectory, if_neg Bool.false_ne_true]

/-! ## Making the directories above -/

/-- First the way of a front of a path is made, then that of the whole path. -/
theorem FileTree.MakesWay.trans
    {between : FileTree}
    {above : List Char}
    {back : List (List Char)}
    (first : before.MakesWay above between)
    (second : between.MakesWay path after)
    (sameRoot : isAbsolute above = isAbsolute path)
    (segments : segmentsOf path = segmentsOf above ++ back) :
    before.MakesWay path after := by
  have startAbove : before.startOf above = before.startOf path :=
    FileTree.startOf_congr sameRoot rfl
  have startBetween : between.startOf path = before.startOf path :=
    FileTree.startOf_congr rfl first.adds.workingDirectory
  have wayBetween := second.way
  have addsBetween := second.adds
  rw [startBetween] at wayBetween addsBetween
  refine ⟨(first.adds.mono ?_).trans addsBetween, wayBetween⟩
  intro place member
  rw [Set.mem_ofPred_eq, startAbove] at member
  rw [Set.mem_ofPred_eq, segments, mem_passed_append_iff]
  exact .inl member

/-- Once the directories above it are made, a directory can be made. -/
theorem FileTree.MakesWay.exists_ensureDirectory
    {between : FileTree}
    {above last : List Char}
    {dots : List (List Char)}
    (makes : tree.MakesWay above between)
    (rooted : tree.HasWorkingDirectory)
    (checked : checkPath path = .ok ())
    (sameRoot : isAbsolute above = isAbsolute path)
    (segments : segmentsOf path = segmentsOf above ++ (dots ++ [last]))
    (areDots : ∀ dot ∈ dots, dot = ['.'])
    (clear : tree.IsClear (tree.startOf path) (segmentsOf path)) :
    ∃ after,
      between.ensureDirectory path = (after, none) ∧
        tree.MakesWay path after := by
  have changes := makes.adds.changesOnly
  have startAbove : tree.startOf above = tree.startOf path :=
    FileTree.startOf_congr sameRoot rfl
  have startBetween : between.startOf path = tree.startOf path :=
    FileTree.startOf_congr rfl changes.workingDirectory
  have way :
      between.HasWay (between.startOf path)
        (segmentsOf path).dropLast := by
    rw [startBetween, segments, ← List.append_assoc,
      List.dropLast_concat, ← startAbove]
    exact makes.way.append_dots areDots
  rw [← startBetween] at clear
  rcases
    FileTree.exists_ensureDirectory_of_hasWay
      (changes.hasWorkingDirectory rooted) checked way
      (changes.isClear clear) with
    ⟨after, ensured, makesLast⟩
  exact ⟨after, ensured, makes.trans makesLast sameRoot segments⟩

/-- Where no file stands on the way, all missing directories are made. -/
theorem FileTree.exists_ensureDirectories
    (rooted : tree.HasWorkingDirectory)
    (noNul : '\x00' ∉ path)
    (ends : path = [] ∨ path = ['/'] ∨ EndsInPart path)
    (clear : tree.IsClear (tree.startOf path) (segmentsOf path))
    {rounds : Nat}
    (enough : path.length < rounds) :
    ∃ after,
      FileTree.ensureDirectories rounds tree path = (after, none) ∧
        tree.MakesWay path after := by
  -- The parent is shorter, so fewer rounds are enough for it.
  induction rounds generalizing path with
  | zero => exact absurd enough (Nat.not_lt_zero _)
  | succ rounds ih =>
      have here := rooted.entry?_startOf path
      by_cases empty : path = []
      · have nothing : segmentsOf path = [] := by
          rw [empty]
          rfl
        have whole : tree.HasWay (tree.startOf path) (segmentsOf path) := by
          rwa [nothing, FileTree.hasWay_nil_iff]
        exact
          ⟨tree, by rw [FileTree.ensureDirectories, if_pos empty],
            whole.makesWay⟩
      · have checked := checkPath_eq_ok_iff.mpr ⟨noNul, empty⟩
        rw [FileTree.ensureDirectories, if_neg empty]
        by_cases way :
            tree.HasWay (tree.startOf path) (segmentsOf path).dropLast
        · rcases
            FileTree.exists_ensureDirectory_of_hasWay rooted checked way
              clear with
            ⟨after, ensured, makes⟩
          exact ⟨after, by rw [ensured], makes⟩
        · rcases ends with isEmpty | isRoot | endsInPart
          · exact absurd isEmpty empty
          · rw [isRoot] at way here
            exact absurd (FileTree.hasWay_nil_iff.mpr here) way
          · rcases endsInPart.exists_parent? with
              ⟨above, dots, last, isParent, inPath, sameRoot, segments,
                areDots, aboveEnds⟩
            have startAbove : tree.startOf above = tree.startOf path :=
              FileTree.startOf_congr sameRoot rfl
            have clearAbove :
                tree.IsClear (tree.startOf above) (segmentsOf above) := by
              rw [startAbove]
              rw [segments] at clear
              exact clear.of_append
            have shorter : above.length < path.length := by
              apply Nat.lt_of_le_of_ne inPath.length_le
              intro sameLength
              rw [inPath.eq_of_length sameLength] at segments
              simp at segments
            rcases
              ih (fun member => noNul (inPath.mem member)) aboveEnds
                clearAbove (by omega) with
              ⟨between, ensured, makes⟩
            rcases
              makes.exists_ensureDirectory rooted checked sameRoot
                segments areDots clear with
              ⟨after, ensuredLast, makesLast⟩
            refine ⟨after, ?_, makesLast⟩
            rw [FileTree.ensureDirectory_of_not_hasWay checked
              clear.dropLast way, isParent]
            simp only [ensured, ensuredLast]

/-! ## When a file can be written -/

/--
A file can be written at the path: it ends with a name, no file stands on the way
to that name, and the name is not that of a directory, nor of one that would be
made on the way.
-/
structure FileTree.TakesFile
    (tree : FileTree)
    (path : List Char) :
    Prop where
  noNul : '\x00' ∉ path
  noSlash : endsWithSlash path = false
  named :
    ∃ name,
      (segmentsOf path).getLast? = some name ∧ IsPlainSegment name
  clear : ∀ place ∈ tree.onWay path, tree.file? place = none
  noDetour : tree.spelled path ∉ tree.onWay path
  free : tree.entry? (tree.spelled path) ≠ some .directory

/-- The directories above a path are made where a file can be written. -/
theorem FileTree.TakesFile.exists_prepare
    (takes : tree.TakesFile path)
    (rooted : tree.HasWorkingDirectory) :
    ∃ prepared,
      tree.prepare path = (prepared, none) ∧
        tree.AddsDirectories {place | place ∈ tree.onWay path} prepared ∧
        prepared.HasWay (tree.startOf path)
          (segmentsOf path).dropLast := by
  rcases takes.named with ⟨name, isLast, plain⟩
  rcases (endsInPart_of_getLast? plain takes.noSlash isLast).exists_parent?
    with
    ⟨above, dots, last, isParent, inPath, sameRoot, segments, areDots,
      aboveEnds⟩
  have startAbove : tree.startOf above = tree.startOf path :=
    FileTree.startOf_congr sameRoot rfl
  have dropped :
      (segmentsOf path).dropLast = segmentsOf above ++ dots := by
    rw [segments, ← List.append_assoc, List.dropLast_concat]
  have clearAbove :
      tree.IsClear (tree.startOf above) (segmentsOf above) := by
    have clear := takes.clear
    rw [FileTree.onWay, dropped] at clear
    rw [startAbove]
    exact FileTree.IsClear.of_append clear
  rcases
    FileTree.exists_ensureDirectories rooted
      (fun member => takes.noNul (inPath.mem member)) aboveEnds clearAbove
      (Nat.lt_succ_self above.length) with
    ⟨prepared, ensured, makes⟩
  have way := makes.way
  rw [startAbove] at way
  refine ⟨prepared, ?_, makes.adds.mono ?_, ?_⟩
  · rw [FileTree.prepare, isParent]
    exact ensured
  · intro place member
    rw [Set.mem_ofPred_eq, startAbove] at member
    rw [Set.mem_ofPred_eq, FileTree.onWay, dropped,
      mem_passed_append_iff]
    exact .inl member
  · rw [dropped]
    exact way.append_dots areDots

/-- Where a file can be written, it is. -/
theorem FileTree.TakesFile.exists_write
    {path : String}
    (takes : tree.TakesFile path.toList)
    (rooted : tree.HasWorkingDirectory)
    (contents : String) :
    ∃ after, tree.write path contents = (after, none) := by
  rcases takes.exists_prepare rooted with
    ⟨prepared, ready, adds, way⟩
  rcases takes.named with ⟨name, isLast, plain⟩
  have segments := List.dropLast_append_getLast? name isLast
  have start : prepared.startOf path.toList = tree.startOf path.toList :=
    FileTree.startOf_congr rfl adds.workingDirectory
  have nonempty : path.toList ≠ [] := by
    intro isEmpty
    rw [isEmpty] at isLast
    cases isLast
  have found :=
    FileTree.locateLast_eq_ok_iff.mpr
      ⟨checkPath_eq_ok_iff.mpr ⟨takes.noNul, nonempty⟩, plain, _,
        segments.symm, start ▸ way.follow, way.leadsTo⟩
  have spelled :
      leadsTo (tree.startOf path.toList)
            (segmentsOf path.toList).dropLast ++
          [name] =
        tree.spelled path.toList := by
    rw [← step_of_isPlainSegment plain, ← leadsTo_concat, segments]
    rfl
  have noDirectory :
      prepared.entry? (tree.spelled path.toList) ≠ some .directory := by
    rcases adds.entry (tree.spelled path.toList) with
      same | ⟨onWay, -, -⟩
    · rw [same]
      exact takes.free
    · exact absurd onWay takes.noDetour
  rw [← spelled] at noDirectory
  have written :
      ∃ after,
        prepared.writeFile path.toList contents.toUTF8 = .ok after :=
    ⟨_, FileTree.writeFile_eq_ok_iff.mpr
      ⟨_, name, found, takes.noSlash, noDirectory, rfl⟩⟩
  rcases written with ⟨after, written⟩
  refine ⟨after, ?_⟩
  rw [FileTree.write_eq, ready]
  simp only [written]

/-- A write that succeeds was possible, and there is a way to the file now. -/
theorem FileTree.takesFile_of_write
    {path contents : String}
    (succeeded : tree.write path contents = (after, none)) :
    tree.TakesFile path.toList ∧
      after.HasWay (tree.startOf path.toList)
        (segmentsOf path.toList).dropLast := by
  have changes := FileTree.prepare_changesOnly tree path.toList
  rw [FileTree.write_eq] at succeeded
  split at succeeded
  · cases succeeded
  · next prepared outcome =>
    rw [outcome] at changes
    split at succeeded
    · next other written =>
      cases succeeded
      rcases FileTree.writeFile_writes written with ⟨_, writes⟩
      rcases FileTree.writeFile_eq_ok_iff.mp written with
        ⟨directory, name, found, noSlash, noDirectory, -⟩
      rcases FileTree.locateLast_eq_ok_iff.mp found with
        ⟨checked, plain, front, segments, followed, isDirectory⟩
      have start :
          prepared.startOf path.toList = tree.startOf path.toList :=
        FileTree.startOf_congr rfl changes.workingDirectory
      rw [start] at followed
      rcases
        FileTree.follow_into_directory_iff.mp ⟨followed, isDirectory⟩
        with ⟨rfl, way⟩
      have onWay :
          tree.onWay path.toList =
            passed (tree.startOf path.toList) front := by
        rw [FileTree.onWay, segments, List.dropLast_concat]
      have spelled :
          tree.spelled path.toList =
            leadsTo (tree.startOf path.toList) front ++ [name] := by
        rw [FileTree.spelled, segments, leadsTo_concat,
          step_of_isPlainSegment plain]
      rw [← spelled] at noDirectory
      refine
        ⟨{ noNul := (checkPath_eq_ok_iff.mp checked).1
           noSlash := noSlash
           named := ⟨name, by rw [segments, List.getLast?_concat], plain⟩
           clear := ?_
           noDetour := ?_
           free := ?_ }, ?_⟩
      · intro place member
        rw [onWay] at member
        rw [← changes.file place (Set.notMem_empty place)]
        exact way.isClear place member
      · intro member
        rw [onWay] at member
        exact noDirectory (way _ member)
      · intro isDirectory
        exact noDirectory (changes.directory _ isDirectory)
      · rw [segments, List.dropLast_concat]
        exact writes.toChangesOnly.hasWay way
    · cases succeeded

end TestScribe.Workspace

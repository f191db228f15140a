import TestScribe.Proofs.Session.Generate
import TestScribe.Proofs.Workspace.Writable

/-!
# Files over a run

A run writes texts to files and locates functions in files.  Each operation
touches at most the file that it writes to, at the location that its path spells.
By induction a run touches only the files that are written to with success, and
each of these holds the text of the last such write; every other file holds what
it held before.  Locating a function answers for that text.
-/

namespace TestScribe.Session

open TestScribe.Locate
open TestScribe.Workspace

/-! ## Runs -/

/-- What a run can do with files. -/
inductive FileOperation where
  /-- Write a text to a path, making the directories above it first. -/
  | write (path contents : String)
  /-- Locate the function around a line of a file. -/
  | locate (path : String) (line : Nat) (language : String)

/-- An operation as a step of a session. -/
def FileOperation.step :
    FileOperation → Step (StateM World) (Option FunctionRecord)
  | .write path contents => do
      failIf (← simulatedHost.write path contents)
      return none
  | .locate path line language =>
      locateInFile simulatedHost path line language

/-- The world after an operation. -/
def FileOperation.apply
    (world : World)
    (operation : FileOperation) :
    World :=
  (simulate operation.step world).2

/-- The world after a run. -/
def worldAfter
    (world : World)
    (operations : List FileOperation) :
    World :=
  operations.foldl FileOperation.apply world

/-- The operation succeeds in writing the text to the file at the location. -/
inductive FileOperation.WritesTo
    (world : World)
    (location : Location) :
    FileOperation → String → Prop where
  | write
      {path contents : String}
      (spelled : world.tree.spelled path.toList = location)
      (succeeds : (world.tree.write path contents).2 = none) :
      WritesTo world location (.write path contents) contents

/-- No operation of the run succeeds in writing to the file at the location. -/
def NeverWritten
    (world : World)
    (location : Location)
    (operations : List FileOperation) :
    Prop :=
  ∀ earlier operation later text,
    operations = earlier ++ operation :: later →
      ¬ operation.WritesTo (worldAfter world earlier) location text

/-- The text of the last operation of the run that succeeds in writing to the file
at the location. -/
inductive LastWrite
    (world : World)
    (location : Location)
    (operations : List FileOperation) :
    String → Prop where
  | intro
      (earlier : List FileOperation)
      {later : List FileOperation}
      {operation : FileOperation}
      {text : String}
      (split : operations = earlier ++ operation :: later)
      (writes :
        operation.WritesTo (worldAfter world earlier) location text)
      (unwritten :
        NeverWritten (worldAfter world (earlier ++ [operation])) location
          later) :
      LastWrite world location operations text

/-- The text of the last successful write to the file at the location, or the
original one if there was none. -/
inductive LastText
    (world : World)
    (location : Location)
    (operations : List FileOperation)
    (text : String) :
    Prop where
  | original
      (isFile : world.tree.file? location = some text.toUTF8)
      (unwritten : NeverWritten world location operations)
  | written
      (lastWrite : LastWrite world location operations text)

variable
    {world : World}
    {location : Location}
    {operation : FileOperation}
    {operations earlier later : List FileOperation}
    {path contents text : String}

/-! ## One operation -/

theorem simulate_write_step
    (world : World)
    (path contents : String) :
    simulate (FileOperation.write path contents).step world =
      ((match (world.tree.write path contents).2 with
        | none => .ok none
        | some problem => .error (.access problem)),
        { world with tree := (world.tree.write path contents).1 }) := by
  rw [FileOperation.step,
    simulate_bind_of_ok (simulate_write path contents world)]
  cases (world.tree.write path contents).2 <;> rfl

@[simp]
theorem tree_apply_write
    (world : World)
    (path contents : String) :
    ((FileOperation.write path contents).apply world).tree =
      (world.tree.write path contents).1 := by
  rw [FileOperation.apply, simulate_write_step]

/-- Locating leaves the world as it is. -/
@[simp]
theorem apply_locate
    (world : World)
    (path : String)
    (line : Nat)
    (language : String) :
    (FileOperation.locate path line language).apply world = world := by
  rw [FileOperation.apply, FileOperation.step]
  by_cases readable :
      ∃ content : String, world.tree.read path = .ok content.toUTF8
  · rcases readable with ⟨content, readable⟩
    rw [simulate_locateInFile readable]
  · rw [not_exists] at readable
    rcases simulate_readText_of_no_text readable with ⟨fault, failed⟩
    rw [locateInFile, simulate_bind_of_error failed]

/-- Locating answers exactly where a text can be read. -/
theorem simulate_locateInFile_eq_ok_iff
    {line : Nat}
    {language : String}
    {answer : Option FunctionRecord} :
    (simulate (locateInFile simulatedHost path line language) world).1 =
        .ok answer ↔
      ∃ content : String,
        world.tree.read path = .ok content.toUTF8 ∧
          extract content line language = answer := by
  constructor
  · intro answered
    by_cases readable :
        ∃ content : String, world.tree.read path = .ok content.toUTF8
    · rcases readable with ⟨content, readable⟩
      rw [simulate_locateInFile readable] at answered
      exact ⟨content, readable, Except.ok.inj answered⟩
    · rw [not_exists] at readable
      rcases simulate_readText_of_no_text readable with ⟨fault, failed⟩
      rw [locateInFile, simulate_bind_of_error failed] at answered
      cases answered
  · rintro ⟨content, readable, rfl⟩
    rw [simulate_locateInFile readable]

/-- An operation touches at most the file that it writes to. -/
theorem FileOperation.changesOnly_apply
    (operation : FileOperation)
    (world : World) :
    world.tree.ChangesOnly
      {location | ∃ text, operation.WritesTo world location text}
      (operation.apply world).tree := by
  cases operation with
  | locate path line language =>
      rw [apply_locate]
      exact FileTree.ChangesOnly.refl _ _
  | write path contents =>
      rw [tree_apply_write]
      rcases outcome : world.tree.write path contents with
        ⟨after, none | problem⟩
      · rcases FileTree.write_writes outcome with ⟨location, writes⟩
        apply writes.toChangesOnly.mono
        rintro _ rfl
        exact
          ⟨contents, .write writes.eq_spelled.symm (by rw [outcome])⟩
      · exact
          (FileTree.write_changesOnly_of_problem outcome).mono
            (Set.empty_subset _)

/-- The file that an operation writes to holds the text afterwards. -/
theorem FileOperation.WritesTo.file?_apply
    (writesTo : operation.WritesTo world location text) :
    (operation.apply world).tree.file? location = some text.toUTF8 := by
  rcases writesTo with ⟨rfl, succeeds⟩
  rcases FileTree.write_writes (Prod.ext rfl succeeds) with
    ⟨location, writes⟩
  rw [tree_apply_write, ← writes.eq_spelled, writes.holds]

/-! ## Runs of operations -/

theorem neverWritten_nil
    (world : World)
    (location : Location) :
    NeverWritten world location [] := by
  intro earlier operation later text split
  exact absurd split.symm (by simp)

theorem neverWritten_cons_iff :
    NeverWritten world location (operation :: operations) ↔
      (∀ text, ¬ operation.WritesTo world location text) ∧
        NeverWritten (operation.apply world) location operations := by
  constructor
  · intro unwritten
    refine ⟨fun text => unwritten [] operation operations text rfl, ?_⟩
    rintro earlier other later text rfl
    exact unwritten (operation :: earlier) other later text rfl
  · rintro ⟨first, further⟩ earlier other later text split
    rcases List.cons_eq_append_iff.mp split with
      ⟨rfl, same⟩ | ⟨rest, rfl, same⟩
    · cases same
      exact first text
    · exact further rest other later text same

/-- A run touches only the files that it writes to. -/
theorem changesOnly_worldAfter
    (world : World)
    (operations : List FileOperation) :
    world.tree.ChangesOnly
      {location | ¬ NeverWritten world location operations}
      (worldAfter world operations).tree := by
  induction operations generalizing world with
  | nil => exact FileTree.ChangesOnly.refl _ _
  | cons operation operations ih =>
      have first := operation.changesOnly_apply world
      have further := ih (operation.apply world)
      refine (first.mono ?_).trans (further.mono ?_)
      · rintro location ⟨text, writesTo⟩ unwritten
        exact (neverWritten_cons_iff.mp unwritten).1 text writesTo
      · intro location written unwritten
        exact written (neverWritten_cons_iff.mp unwritten).2

theorem NeverWritten.file?_worldAfter
    (unwritten : NeverWritten world location operations) :
    (worldAfter world operations).tree.file? location =
      world.tree.file? location :=
  (changesOnly_worldAfter world operations).file location
    (not_not_intro unwritten)

/-- A file that no path of the run's writes spells is never written to. -/
theorem neverWritten_of_spelled_ne
    (elsewhere :
      ∀ path contents,
        .write path contents ∈ operations →
          world.tree.spelled path.toList ≠ location) :
    NeverWritten world location operations := by
  rintro earlier _ later text rfl ⟨spelled, -⟩
  next path =>
  rw [(changesOnly_worldAfter world earlier).spelled_eq] at spelled
  exact elsewhere path text (by simp) spelled

theorem worldAfter_append
    (world : World)
    (earlier later : List FileOperation) :
    worldAfter world (earlier ++ later) =
      worldAfter (worldAfter world earlier) later :=
  List.foldl_append

/-- Unless a file was never written to, there is a last write to it. -/
theorem neverWritten_or_exists_lastWrite
    (world : World)
    (location : Location)
    (operations : List FileOperation) :
    NeverWritten world location operations ∨
      ∃ text, LastWrite world location operations text := by
  induction operations generalizing world with
  | nil => exact .inl (neverWritten_nil world location)
  | cons operation operations ih =>
      rcases ih (operation.apply world) with
        unwritten | ⟨text, earlier, rfl, writes, unwritten⟩
      · by_cases first :
            ∃ text, operation.WritesTo world location text
        · rcases first with ⟨text, writes⟩
          exact .inr ⟨text, .intro [] rfl writes unwritten⟩
        · exact
            .inl
              (neverWritten_cons_iff.mpr
                ⟨not_exists.mp first, unwritten⟩)
      · exact
          .inr
            ⟨text, .intro (operation :: earlier) rfl writes unwritten⟩

theorem LastWrite.file?_worldAfter
    (lastWrite : LastWrite world location operations text) :
    (worldAfter world operations).tree.file? location =
      some text.toUTF8 := by
  rcases lastWrite with ⟨earlier, rfl, writes, unwritten⟩
  rw [List.append_cons, worldAfter_append, unwritten.file?_worldAfter,
    worldAfter_append]
  exact writes.file?_apply

/-- After a run a file holds the text of the last write to it, or the text that it
held before. -/
theorem file?_worldAfter_eq_some_iff :
    (worldAfter world operations).tree.file? location =
        some text.toUTF8 ↔
      LastText world location operations text := by
  constructor
  · intro holds
    rcases neverWritten_or_exists_lastWrite world location operations with
      unwritten | ⟨last, lastWrite⟩
    · rw [unwritten.file?_worldAfter] at holds
      exact .original holds unwritten
    · rw [lastWrite.file?_worldAfter] at holds
      have same : last = text :=
        String.toByteArray_inj.mp (Option.some.inj holds)
      exact .written (same ▸ lastWrite)
  · intro lastText
    cases lastText with
    | original isFile unwritten =>
        rw [unwritten.file?_worldAfter, isFile]
    | written lastWrite => exact lastWrite.file?_worldAfter

/-- A path that is written to leads to the file that it spells from then on. -/
theorem locate_worldAfter_of_write
    (succeeds :
      ((worldAfter world earlier).tree.write path contents).2 = none)
    (later : List FileOperation) :
    (worldAfter world (earlier ++ .write path contents :: later)).tree.locate
        path.toList =
      .ok (world.tree.spelled path.toList) := by
  rcases FileTree.write_writes (Prod.ext rfl succeeds) with
    ⟨location, writes⟩
  rw [List.append_cons, worldAfter_append]
  apply (changesOnly_worldAfter _ later).locate
  rw [worldAfter_append,
    ← (changesOnly_worldAfter world earlier).spelled_eq path.toList,
    ← writes.eq_spelled]
  change FileTree.locate (FileOperation.apply _ _).tree _ = _
  rw [tree_apply_write, writes.located]

/-! ## Writing and locating -/

/-- Locating after a run answers for the text of the last write to the file that
the path spells, or for its original text. -/
theorem locateInFile_worldAfter_eq_ok_iff
    {line : Nat}
    {language : String}
    {answer : Option FunctionRecord} :
    (simulate (locateInFile simulatedHost path line language)
          (worldAfter world operations)).1 =
        .ok answer ↔
      (worldAfter world operations).tree.locate path.toList =
          .ok (world.tree.spelled path.toList) ∧
        ∃ text,
          LastText world (world.tree.spelled path.toList) operations
              text ∧
            extract text line language = answer := by
  have sameSpelled :
      (worldAfter world operations).tree.spelled path.toList =
        world.tree.spelled path.toList :=
    (changesOnly_worldAfter world operations).spelled_eq path.toList
  rw [simulate_locateInFile_eq_ok_iff, ← exists_and_left]
  refine exists_congr fun text => ?_
  rw [← and_assoc, ← file?_worldAfter_eq_some_iff,
    FileTree.read_eq_ok_iff]
  constructor
  · rintro ⟨⟨location, located, isFile⟩, answers⟩
    have spelled := FileTree.eq_spelled_of_locate located
    rw [sameSpelled] at spelled
    rw [← spelled]
    exact ⟨⟨located, isFile⟩, answers⟩
  · rintro ⟨⟨located, isFile⟩, answers⟩
    exact ⟨⟨_, located, isFile⟩, answers⟩

/--
A write that succeeds is read back from its path, has a directory at every
location on the way, and leaves every other file as it was; one that fails leaves
all files as they were.  It succeeds only on a path that takes a file, and, if the
working directory is there, on each.

So after any run of writes and locates, locating answers for the text of the last
successful write to the file that the path spells, or for its original text if
there was none.  A path that leads to a file before the run, or is written to in
it, leads there afterwards.
-/
theorem write_exact_and_last_text_located :
    (∀ (tree : FileTree) (path contents : String),
      (∀ after,
        tree.write path contents = (after, none) →
          tree.TakesFile path.toList ∧
          after.read path = .ok contents.toUTF8 ∧
          (∀ place ∈ tree.onWay path.toList,
            after.entry? place = some .directory) ∧
          ∀ location ≠ tree.spelled path.toList,
            after.file? location = tree.file? location) ∧
      (∀ after problem,
        tree.write path contents = (after, some problem) →
          tree.SameFiles after) ∧
      (tree.HasWorkingDirectory →
        tree.TakesFile path.toList →
          ∃ after, tree.write path contents = (after, none))) ∧
    ∀ (world : World) (operations : List FileOperation) (path : String),
      (∀ line language answer,
        (simulate (locateInFile simulatedHost path line language)
              (worldAfter world operations)).1 =
            .ok answer ↔
          (worldAfter world operations).tree.locate path.toList =
              .ok (world.tree.spelled path.toList) ∧
            ∃ text,
              LastText world (world.tree.spelled path.toList) operations
                  text ∧
                extract text line language = answer) ∧
      (∀ location,
        world.tree.locate path.toList = .ok location →
          (worldAfter world operations).tree.locate path.toList =
            .ok (world.tree.spelled path.toList)) ∧
      ∀ earlier contents later,
        operations = earlier ++ .write path contents :: later →
        ((worldAfter world earlier).tree.write path contents).2 = none →
          (worldAfter world operations).tree.locate path.toList =
            .ok (world.tree.spelled path.toList) := by
  refine
    ⟨fun tree path contents => ⟨?success, ?failure, ?taken⟩,
      fun world operations path => ⟨?located, ?kept, ?made⟩⟩
  case success =>
    intro after succeeded
    rcases FileTree.write_writes succeeded with ⟨location, writes⟩
    rcases FileTree.takesFile_of_write succeeded with ⟨takes, way⟩
    refine ⟨takes, writes.read, way, ?_⟩
    intro other elsewhere
    rw [← writes.eq_spelled] at elsewhere
    exact writes.file other elsewhere
  case failure =>
    intro after problem failed
    exact (FileTree.write_changesOnly_of_problem failed).sameFiles
  case taken =>
    intro rooted takes
    exact takes.exists_write rooted contents
  case located =>
    intro line language answer
    exact locateInFile_worldAfter_eq_ok_iff
  case kept =>
    intro location located
    rw [(changesOnly_worldAfter world operations).locate located,
      FileTree.eq_spelled_of_locate located]
  case made =>
    rintro earlier contents later rfl succeeds
    exact locate_worldAfter_of_write succeeds later

/-- One file is written under two spellings, then a write that asks for a directory
fails; another file is never written. -/
theorem write_exact_and_last_text_located_two_spellings :
    let old := "def f(x):\n  pass"
    let new := "def g(x):\n  pass"
    let tree :=
      (FileTree.bare ["w".toList]).put ["w".toList, "a.py".toList]
        (.file old.toUTF8)
    let world : World :=
      { tree := tree, network := fun _ => .unreachable, sent := [] }
    let operations : List FileOperation :=
      [.write "./e//x.py" old, .locate "a.py" 1 "python",
        .write "d/../e/x.py" new, .write "e/x.py/" old]
    let located (path : String) :=
      (simulate (locateInFile simulatedHost path 1 "python")
          (worldAfter world operations)).1
    (∃ after,
      tree.write "./e//x.py" old = (after, none) ∧
        after.read "./e//x.py" = .ok old.toUTF8 ∧
        after.entry? ["w".toList, "e".toList] = some .directory ∧
        after.file? ["w".toList, "a.py".toList] = some old.toUTF8) ∧
      tree.SameFiles (tree.write "a.py/x.py" new).1 ∧
      located "./e//x.py" = .ok (extract new 1 "python") ∧
      located "a.py" = .ok (extract old 1 "python") := by
  intro old new tree world operations located
  have noDirectory :
      FileTree.entry? (FileTree.bare ["w".toList])
          ["w".toList, "a.py".toList] ≠
        some .directory :=
    ne_of_eq_of_ne rfl (Option.some_ne_none _).symm
  have rooted : tree.HasWorkingDirectory :=
    (FileTree.changesOnly_put_file (by decide) noDirectory
        old.toUTF8).hasWorkingDirectory
      (FileTree.hasWorkingDirectory_bare ["w".toList])
  have takes : tree.TakesFile "./e//x.py".toList :=
    { noNul := by decide
      noSlash := by decide
      named := ⟨"x.py".toList, by decide, by decide, by decide, by decide⟩
      clear := by decide +kernel
      noDetour := by decide +kernel
      free := ne_of_eq_of_ne rfl (Option.some_ne_none _).symm }
  have fails :
      (tree.write "a.py/x.py" new).2 = some .alreadyExists := by
    decide +kernel
  have again :
      ((worldAfter world (operations.take 2)).tree.write "d/../e/x.py"
          new).2 =
        none := by
    decide +kernel
  have sameFile :
      (worldAfter world (operations.take 2)).tree.spelled
          "d/../e/x.py".toList =
        tree.spelled "./e//x.py".toList := by
    decide +kernel
  have lastFails :
      ((worldAfter world (operations.take 3)).tree.write "e/x.py/"
          old).2 ≠
        none := by
    decide +kernel
  rcases write_exact_and_last_text_located with ⟨writing, locating⟩
  rcases (writing tree "./e//x.py" old).2.2 rooted takes with
    ⟨after, written⟩
  rcases (writing tree "./e//x.py" old).1 after written with
    ⟨-, read, way, others⟩
  refine
    ⟨⟨after, written, read, ?directory, ?other⟩, ?failure, ?written,
      ?original⟩
  case directory => exact way _ (by decide +kernel)
  case other =>
    rw [others _ (by decide +kernel)]
    rfl
  case failure =>
    exact (writing tree "a.py/x.py" new).2.1 _ _ (Prod.ext rfl fails)
  case written =>
    rcases locating world operations "./e//x.py" with ⟨answers, -, made⟩
    refine (answers 1 "python" _).mpr ⟨?_, new, .written ?_, rfl⟩
    · exact made [] old _ rfl (congrArg Prod.snd written)
    · refine .intro (operations.take 2) rfl (.write sameFile again) ?_
      refine neverWritten_cons_iff.mpr ⟨?_, neverWritten_nil _ _⟩
      rintro text ⟨-, succeeds⟩
      exact lastFails succeeds
  case original =>
    rcases locating world operations "a.py" with ⟨answers, kept, -⟩
    refine (answers 1 "python" _).mpr ⟨?_, old, .original rfl ?_, rfl⟩
    · exact kept _ rfl
    · apply neverWritten_of_spelled_ne
      intro path contents member
      simp only [operations, List.mem_cons, reduceCtorEq,
        FileOperation.write.injEq, List.not_mem_nil, or_false,
        false_or] at member
      rcases member with ⟨rfl, -⟩ | ⟨rfl, -⟩ | ⟨rfl, -⟩
      · decide +kernel
      · decide +kernel
      · decide +kernel

end TestScribe.Session

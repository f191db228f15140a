import TestScribe.Proofs.Path.TestFile
import TestScribe.Proofs.Session.Host
import TestScribe.Proofs.Workspace.Access
import TestScribe.Session.Generate

/-!
# What generating tests leaves alone

A run of the generator ends in one of six ways.  It has written nothing unless
the last step, writing the test file, has begun; that step touches the test file
alone, and no file if it fails.  The source is another file than the test file,
because the paths of the two end with different names.
-/

namespace TestScribe.Session

open TestScribe.Backend
open TestScribe.Configuration
open TestScribe.Locate
open TestScribe.Path
open TestScribe.Workspace

variable
    {settings : Settings}
    {client : Client}
    {path language content : String}
    {line : Option Nat}
    {cursor : Nat}
    {world : World}

/-! ## The steps of a run -/

/-- Settings make a client exactly when they have no problem. -/
theorem exists_forSettings_eq_ok_iff :
    (∃ client, Client.forSettings settings = .ok client) ↔
      settings.problem? = none := by
  rw [Client.forSettings]
  split
  · next problem found => simp [found]
  · next fine => simp [fine]

theorem simulate_locateInFile
    (readable : world.tree.read path = .ok content.toUTF8)
    (cursor : Nat)
    (language : String) :
    simulate (locateInFile simulatedHost path cursor language) world =
      (.ok (extract content cursor language), world) := by
  rw [locateInFile,
    simulate_bind_of_ok (simulate_readText_of_text readable),
    simulate_pure]

/--
What a run asks of the backend, and what it makes of the reply: the tests for
the whole file, or for the function around the line.
-/
inductive Asks
    (settings : Settings)
    (path : String)
    (line : Option Nat)
    (language : String)
    (world : World) :
    Request → (Reply → Except Fault GeneratedTests) → Prop where
  | file
      {content : String}
      {client : Client}
      (readable : world.tree.read path = .ok content.toUTF8)
      (usable : Client.forSettings settings = .ok client)
      (noLine : line = none) :
      Asks settings path line language world
        (client.fileRequest content language (some path))
        (fun reply => (client.fileTests reply).map (⟨·, .backend⟩))
  | function
      {content : String}
      {client : Client}
      {cursor : Nat}
      {record : FunctionRecord}
      (readable : world.tree.read path = .ok content.toUTF8)
      (usable : Client.forSettings settings = .ok client)
      (isLine : line = some cursor)
      (located : extract content cursor language = some record) :
      Asks settings path line language world
        (client.functionRequest record path none)
        (client.functionTests record path)

/-- Whatever is asked, the source was read. -/
theorem Asks.readable
    {request : Request}
    {tests : Reply → Except Fault GeneratedTests}
    (asks : Asks settings path line language world request tests) :
    ∃ content : String, world.tree.read path = .ok content.toUTF8 := by
  cases asks with
  | file readable => exact ⟨_, readable⟩
  | function readable => exact ⟨_, readable⟩

theorem simulate_testsForFile
    (client : Client)
    (content path language : String)
    (world : World) :
    simulate (testsForFile simulatedHost client content path language)
        world =
      ((client.fileTests
          (world.network
            (client.fileRequest content language (some path)))).map
          (⟨·, .backend⟩),
        world.afterSending
          (client.fileRequest content language (some path))) := by
  rw [testsForFile, simulate_bind_of_ok (simulate_exchange _ world)]
  cases tests :
      client.fileTests
        (world.network
          (client.fileRequest content language (some path))) with
  | error fault => rfl
  | ok code => rfl

theorem simulate_testsForFunction
    (client : Client)
    (record : FunctionRecord)
    (path : String)
    (world : World) :
    simulate (testsForFunction simulatedHost client record path) world =
      (client.functionTests record path
          (world.network (client.functionRequest record path none)),
        world.afterSending (client.functionRequest record path none)) := by
  rw [testsForFunction, simulate_bind_of_ok (simulate_exchange _ world),
    simulate_except]

theorem simulate_writeTests
    (settings : Settings)
    (path language : String)
    (tests : GeneratedTests)
    (world : World) :
    simulate (writeTests simulatedHost settings path language tests)
        world =
      match
        world.tree.write
          (testFilePath path language settings.testDirectory)
          tests.testCode with
      | (tree, some problem) =>
          (.error (.access problem), { world with tree := tree })
      | (tree, none) =>
          (.ok
              (.written
                (testFilePath path language settings.testDirectory)
                tests.origin),
            { world with tree := tree }) := by
  rw [writeTests, simulate_bind_of_ok (simulate_write _ _ world)]
  rcases
    world.tree.write (testFilePath path language settings.testDirectory)
      tests.testCode with
    ⟨tree, none | problem⟩
  · rfl
  · rfl

/-! ## The ends of a run -/

/-- The ways in which a run of the generator ends, with the world after it. -/
inductive GenerationEnds
    (settings : Settings)
    (path : String)
    (line : Option Nat)
    (language : String)
    (world : World) :
    Except Fault Outcome × World → Prop where
  /-- The source cannot be read. -/
  | unreadable
      {fault : Fault}
      (unreadable :
        ∀ content : String,
          world.tree.read path ≠ .ok content.toUTF8) :
      GenerationEnds settings path line language world
        (.error fault, world)
  /-- The settings cannot be used. -/
  | unusable
      {fault : Fault}
      (unusable : Client.forSettings settings = .error fault) :
      GenerationEnds settings path line language world
        (.error fault, world)
  /-- There is no function around the line. -/
  | notInFunction
      {content : String}
      {client : Client}
      {cursor : Nat}
      (readable : world.tree.read path = .ok content.toUTF8)
      (usable : Client.forSettings settings = .ok client)
      (isLine : line = some cursor)
      (noFunction : extract content cursor language = none) :
      GenerationEnds settings path line language world
        (.ok .notInFunction, world)
  /-- No tests come of the request. -/
  | noTests
      {request : Request}
      {tests : Reply → Except Fault GeneratedTests}
      {fault : Fault}
      (asks : Asks settings path line language world request tests)
      (refused : tests (world.network request) = .error fault) :
      GenerationEnds settings path line language world
        (.error fault, world.afterSending request)
  /-- The tests cannot be written. -/
  | unwritten
      {request : Request}
      {tests : Reply → Except Fault GeneratedTests}
      {code : String}
      {origin : Origin}
      {tree : FileTree}
      {problem : AccessProblem}
      (asks : Asks settings path line language world request tests)
      (generated : tests (world.network request) = .ok ⟨code, origin⟩)
      (failed :
        world.tree.write
            (testFilePath path language settings.testDirectory) code =
          (tree, some problem)) :
      GenerationEnds settings path line language world
        (.error (.access problem),
          { world.afterSending request with tree := tree })
  /-- The tests are written. -/
  | written
      {request : Request}
      {tests : Reply → Except Fault GeneratedTests}
      {code : String}
      {origin : Origin}
      {tree : FileTree}
      (asks : Asks settings path line language world request tests)
      (generated : tests (world.network request) = .ok ⟨code, origin⟩)
      (succeeded :
        world.tree.write
            (testFilePath path language settings.testDirectory) code =
          (tree, none)) :
      GenerationEnds settings path line language world
        (.ok
            (.written
              (testFilePath path language settings.testDirectory)
              origin),
          { world.afterSending request with tree := tree })

/-- How a run ends once it asks the backend. -/
theorem Asks.generationEnds
    {request : Request}
    {tests : Reply → Except Fault GeneratedTests}
    {step : Step (StateM World) GeneratedTests}
    (asks : Asks settings path line language world request tests)
    (asked :
      simulate step world =
        (tests (world.network request), world.afterSending request)) :
    GenerationEnds settings path line language world
      (simulate
        (step >>= writeTests simulatedHost settings path language)
        world) := by
  cases generated : tests (world.network request) with
  | error fault =>
      rw [generated] at asked
      rw [simulate_bind_of_error asked]
      exact GenerationEnds.noTests asks generated
  | ok made =>
      rcases made with ⟨code, origin⟩
      rw [generated] at asked
      rw [simulate_bind_of_ok asked, simulate_writeTests]
      split
      · next tree problem failed =>
        exact GenerationEnds.unwritten asks generated failed
      · next tree succeeded =>
        exact GenerationEnds.written asks generated succeeded

/-- Every run of the generator ends in one of these ways. -/
theorem generateTests_ends
    (settings : Settings)
    (path : String)
    (line : Option Nat)
    (language : String)
    (world : World) :
    GenerationEnds settings path line language world
      (simulate
        (generateTests simulatedHost settings path line language)
        world) := by
  rw [generateTests]
  by_cases readable :
      ∃ content : String, world.tree.read path = .ok content.toUTF8
  · rcases readable with ⟨content, readable⟩
    rw [simulate_bind_of_ok (simulate_readText_of_text readable)]
    cases usable : Client.forSettings settings with
    | error fault =>
        rw [simulate_bind_of_error (simulate_except _ world)]
        exact GenerationEnds.unusable usable
    | ok client =>
        rw [simulate_bind_of_ok (simulate_except _ world)]
        cases line with
        | none =>
            exact
              (Asks.file readable usable rfl).generationEnds
                (simulate_testsForFile client content path language
                  world)
        | some cursor =>
            dsimp only
            split
            · next noFunction =>
              exact
                GenerationEnds.notInFunction readable usable rfl
                  noFunction
            · next record located =>
              exact
                (Asks.function readable usable rfl
                    located).generationEnds
                  (simulate_testsForFunction client record path world)
  · rw [not_exists] at readable
    rcases simulate_readText_of_no_text readable with ⟨fault, failed⟩
    rw [simulate_bind_of_error failed]
    exact GenerationEnds.unreadable readable

/-- Where there is no function around the line, the run ends at once. -/
theorem simulate_generateTests_of_no_function
    (readable : world.tree.read path = .ok content.toUTF8)
    (usable : Client.forSettings settings = .ok client)
    (noFunction : extract content cursor language = none) :
    simulate
        (generateTests simulatedHost settings path (some cursor)
          language)
        world =
      (.ok .notInFunction, world) := by
  rw [generateTests,
    simulate_bind_of_ok (simulate_readText_of_text readable), usable,
    simulate_bind_of_ok (simulate_except _ world)]
  simp only [noFunction]
  exact simulate_pure _ world

/-! ## The source and the test file -/

/-- The test file is another file than the source, so the source stays. -/
theorem source_unchanged_of_writes
    {before after : FileTree}
    {testDirectory : String}
    {location : Location}
    {source bytes : ByteArray}
    (rooted : before.HasWorkingDirectory)
    (readable : before.read path = .ok source)
    (writes :
      before.Writes (testFilePath path language testDirectory) bytes
        location after) :
    before.locate path.toList ≠ .ok location ∧
      after.read path = .ok source := by
  rcases FileTree.read_eq_ok_iff.mp readable with
    ⟨sourceLocation, located, isFile⟩
  rcases before.exists_name_of_locate rooted located isFile with
    ⟨name, plain, isLast, sourceName⟩
  have testName :
      location.getLast? =
        some (testFileName (stemOfName name) language) := by
    rcases
      after.exists_name_of_locate
        (writes.toChangesOnly.hasWorkingDirectory rooted)
        writes.located writes.holds with
      ⟨other, -, otherLast, otherName⟩
    rw [getLast?_segmentsOf_testFilePath plain isLast] at otherLast
    rw [otherName, otherLast]
  have different : sourceLocation ≠ location := by
    intro same
    rw [same, testName] at sourceName
    exact
      testFileName_stemOfName_ne name language
        (Option.some.inj sourceName)
  constructor
  · rw [located]
    intro same
    exact different (Except.ok.inj same)
  · exact writes.toChangesOnly.read located isFile different

/-! ## What a run leaves -/

/--
A run that fails, or finds no function, leaves every file as it was.  A run that
reports a test file has written the generated tests to it, as UTF-8, and left
every other file as it was, the source among them.  The run reports that there
is no function exactly when the source can be read, the settings can be used, a
line is given, and locating the function around it finds none; then nothing is
asked of the backend.
-/
theorem generateTests_writes_one_file_or_none
    (settings : Settings)
    (path : String)
    (line : Option Nat)
    (language : String)
    {world after : World}
    {result : Except Fault Outcome}
    (rooted : world.tree.HasWorkingDirectory)
    (run :
      simulate
          (generateTests simulatedHost settings path line language)
          world =
        (result, after)) :
    (∀ fault,
      result = .error fault → world.tree.SameFiles after.tree) ∧
    (∀ testPath origin,
      result = .ok (.written testPath origin) →
        testPath =
            testFilePath path language settings.testDirectory ∧
        ∃ request tests code location,
          Asks settings path line language world request tests ∧
          tests (world.network request) = .ok ⟨code, origin⟩ ∧
          world.tree.Writes testPath code.toUTF8 location after.tree ∧
          after.tree.read testPath = .ok code.toUTF8 ∧
          world.tree.locate path.toList ≠ .ok location ∧
          after.tree.read path = world.tree.read path) ∧
    (result = .ok .notInFunction ↔
      (∃ content : String,
        world.tree.read path = .ok content.toUTF8) ∧
      settings.problem? = none ∧
      ∃ cursor,
        line = some cursor ∧
        (simulate (locateInFile simulatedHost path cursor language)
          world).1 = .ok none) ∧
    (result = .ok .notInFunction →
      world.tree.SameFiles after.tree ∧ after.sent = world.sent) := by
  have ends := generateTests_ends settings path line language world
  rw [run] at ends
  refine ⟨?failed, ?written, ⟨?found, ?reported⟩, ?untouched⟩
  case failed =>
    rintro fault rfl
    cases ends with
    | unreadable => exact fun _ => rfl
    | unusable => exact fun _ => rfl
    | noTests => exact fun _ => rfl
    | unwritten _ _ failed =>
        exact
          (FileTree.write_changesOnly_of_problem failed).sameFiles
  case written =>
    rintro testPath origin rfl
    cases ends with
    | written asks generated succeeded =>
        rcases FileTree.write_writes succeeded with ⟨location, writes⟩
        rcases asks.readable with ⟨content, readable⟩
        rcases source_unchanged_of_writes rooted readable writes with
          ⟨elsewhere, unchanged⟩
        exact
          ⟨rfl, _, _, _, location, asks, generated, writes, writes.read,
            elsewhere, unchanged.trans readable.symm⟩
  case found =>
    rintro rfl
    cases ends with
    | notInFunction readable usable isLine noFunction =>
        refine
          ⟨⟨_, readable⟩,
            exists_forSettings_eq_ok_iff.mp ⟨_, usable⟩,
            _, isLine, ?_⟩
        rw [simulate_locateInFile readable, noFunction]
  case reported =>
    rintro ⟨⟨content, readable⟩, fine, cursor, rfl, nothing⟩
    rcases exists_forSettings_eq_ok_iff.mpr fine with ⟨client, usable⟩
    rw [simulate_locateInFile readable] at nothing
    have atOnce :=
      simulate_generateTests_of_no_function readable usable
        (Except.ok.inj nothing)
    rw [atOnce] at run
    exact (congrArg Prod.fst run).symm
  case untouched =>
    rintro rfl
    cases ends with
    | notInFunction => exact ⟨fun _ => rfl, rfl⟩

/-- A function whose backend is not there: a skeleton is written. -/
theorem generateTests_writes_one_file_or_none_skeleton :
    let source := "def f(x):\n  pass"
    let world : World :=
      { tree :=
          (FileTree.bare ["w".toList]).put ["w".toList, "a.py".toList]
            (.file source.toUTF8)
        network := fun _ => .unreachable
        sent := [] }
    let run :=
      simulate
        (generateTests simulatedHost Settings.standard "a.py" (some 1)
          "python")
        world
    world.tree.HasWorkingDirectory ∧
      run.1 = .ok (.written "__tests__/a.test.py" .template) ∧
      (∃ code : String,
        run.2.tree.read "__tests__/a.test.py" = .ok code.toUTF8) ∧
      run.2.tree.read "a.py" = .ok source.toUTF8 := by
  intro source world run
  have noDirectory :
      FileTree.entry? (FileTree.bare ["w".toList])
          ["w".toList, "a.py".toList] ≠
        some .directory := by
    have free :
        FileTree.entry? (FileTree.bare ["w".toList])
            ["w".toList, "a.py".toList] =
          none := by
      rfl
    rw [free]
    intro isDirectory
    cases isDirectory
  have rooted : world.tree.HasWorkingDirectory :=
    (FileTree.changesOnly_put_file (by decide) noDirectory
        source.toUTF8).hasWorkingDirectory
      (FileTree.hasWorkingDirectory_bare ["w".toList])
  have reported :
      run.1 = .ok (.written "__tests__/a.test.py" .template) := by
    decide +kernel
  have readable : world.tree.read "a.py" = .ok source.toUTF8 := by
    rfl
  have effect :=
    generateTests_writes_one_file_or_none Settings.standard "a.py"
      (some 1) "python" rooted (rfl : _ = (run.1, run.2))
  rcases effect.2.1 _ _ reported with
    ⟨-, _, _, code, _, -, -, -, written, -, unchanged⟩
  exact
    ⟨rooted, reported, ⟨code, written⟩, unchanged.trans readable⟩

end TestScribe.Session

import TestScribe.Configuration.Settings
import TestScribe.Proofs.Path.TestFile
import TestScribe.Skeleton.Template

/-!
# The module that a skeleton imports

A skeleton for Jest imports the module of the source from one level above the
test file.  That is the source exactly when the test directory lies one level
below the directory of the source, or when both are the root; a test directory
further down, the directory of the source itself, or a directory elsewhere leads
past it.
-/

namespace TestScribe.Skeleton

open TestScribe.Locate
open TestScribe.Path
open TestScribe.Workspace

/-! ## The import -/

/-- The line that imports a function from a module, by the path of the module. -/
def importLine
    (language name modulePath : String) :
    String :=
  if language = "typescript" then
    "import \x7b " ++ name ++ " \x7d from '" ++ modulePath ++ "';"
  else
    "const \x7b " ++ name ++ " \x7d = require('" ++ modulePath ++ "');"

variable
    {record : FunctionRecord}
    {source : String}
    {name : List Char}

theorem jestImport_eq
    (named : fileName? source.toList = some name) :
    jestImport record (some source) =
      importLine record.language record.name
        ("../" ++ String.ofList (stemOfName name)) := by
  have stem :
      moduleName (some source) "source" =
        String.ofList (stemOfName name) := by
    rw [moduleName, Option.bind_some, fileStem?, named]
    rfl
  rw [jestImport, importLine, stem]
  simp only [beq_iff_eq]
  split
  · apply String.toList_inj.mp
    simp
  · apply String.toList_inj.mp
    simp

/-- A skeleton for Jest begins with the import of the stem, one level up. -/
theorem basicTemplate_imports
    (jest :
      record.language = "typescript" ∨ record.language = "javascript")
    (named : fileName? source.toList = some name) :
    ∃ rest,
      basicTemplate record (some source) =
        importLine record.language record.name
            ("../" ++ String.ofList (stemOfName name)) ++
          "\n" ++ rest := by
  have framework : Framework.forLanguage record.language = .jest := by
    rcases jest with isLanguage | isLanguage
    · rw [isLanguage]
      rfl
    · rw [isLanguage]
      rfl
  rw [basicTemplate, framework]
  dsimp only
  rw [jestSkeleton, textOfLines, List.map_cons, String.join_cons,
    jestImport_eq named]
  exact ⟨_, rfl⟩

/-! ## Where the import leads -/

/-- A path without the extension of its file name. -/
def withoutExtension
    (path : List Char) :
    List Char :=
  join ((parent? path).getD []) ((fileStem? path).getD [])

theorem placeOf_withoutExtension
    {path : List Char}
    (named : fileName? path = some name) :
    placeOf (withoutExtension path) =
      (placeOf ((parent? path).getD [])).enterSegment
        (stemOfName name) := by
  have unbroken : '/' ∉ stemOfName name :=
    slash_not_mem_stemOfName (isPlainSegment_of_fileName? named).2
  rw [withoutExtension, fileStem?, named, placeOf, Place.follow_join]
  exact Place.follow_of_slash_not_mem unbroken _

/-- One directory up and on to a name without a slash. -/
theorem follow_upwards
    {stem : List Char}
    (unbroken : '/' ∉ stem)
    (place : Place) :
    place.follow ("../" ++ String.ofList stem).toList =
      place.up.enterSegment stem := by
  have text :
      ("../" ++ String.ofList stem).toList =
        ['.', '.'] ++ '/' :: stem := by
    simp
  rw [text, Place.follow_eq_walk, Place.walk_append_slash,
    Place.walk_of_slash_not_mem unbroken]
  rfl

/--
One level up from the tests of a file and on to its stem lead to where the stem
leads from the directory of the file.
-/
inductive LeadsBack
    (stem : List Char)
    (home tests : Place) : Prop where
  /-- The tests lie one level below the file's directory. -/
  | below {name : List Char}
      (isBelow : tests = home.below name)
  /-- Both directories are the root, which is its own parent. -/
  | root
      (homeIsRoot : home = Place.root)
      (testsAreRoot : tests = Place.root)
  /-- The stem is two dots, as in a file named with three, and leads up again. -/
  | dots
      (isUp : stem = ['.', '.'])
      (sameAbove : tests.up.up = home.up)

theorem up_enterSegment_eq_iff
    {stem path : List Char}
    {home : Place}
    (nonempty : stem ≠ []) :
    (home.follow path).up.enterSegment stem = home.enterSegment stem ↔
      LeadsBack stem home (home.follow path) := by
  have beside :
      (home.follow path).up = home ↔
        (∃ name, home.follow path = home.below name) ∨
          home = Place.root ∧ home.follow path = Place.root :=
    Place.up_follow_eq_iff
  constructor
  · intro same
    by_cases isUp : stem = ['.', '.']
    · subst isUp
      exact .dots rfl same
    · have sameHome : (home.follow path).up = home := by
        by_cases isCurrent : stem = ['.']
        · subst isCurrent
          exact same
        · rw [Place.enterSegment_of_isPlainSegment
              ⟨nonempty, isCurrent, isUp⟩,
            Place.enterSegment_of_isPlainSegment
              ⟨nonempty, isCurrent, isUp⟩,
            Place.below_inj] at same
          exact same.1
      rcases beside.mp sameHome with ⟨name, isBelow⟩ | ⟨atRoot, stays⟩
      · exact .below isBelow
      · exact .root atRoot stays
  · intro leads
    cases leads with
    | below isBelow => rw [beside.mpr (.inl ⟨_, isBelow⟩)]
    | root atRoot stays => rw [beside.mpr (.inr ⟨atRoot, stays⟩)]
    | dots isUp sameAbove =>
        subst isUp
        exact sameAbove

/--
A skeleton for Jest begins with an import of `../STEM`, the stem being that of the
source.  Resolved from the directory of the test file, that is the source without
its extension exactly when the test directory leads one level below the directory
of the source; only the root, which is its own parent, and a stem of two dots
allow for more.
-/
theorem jest_import_reaches_source_iff
    (record : FunctionRecord)
    {source : String}
    {name : List Char}
    (testDirectory : String)
    (jest :
      record.language = "typescript" ∨ record.language = "javascript")
    (named : fileName? source.toList = some name) :
    let modulePath := "../" ++ String.ofList (stemOfName name)
    let home := placeOf ((parent? source.toList).getD [])
    (∃ rest,
      basicTemplate record (some source) =
        importLine record.language record.name modulePath ++ "\n" ++
          rest) ∧
      ∃ directory,
        parent?
            (testFilePath source record.language testDirectory).toList =
          some directory ∧
        ((placeOf directory).follow modulePath.toList =
            placeOf (withoutExtension source.toList) ↔
          LeadsBack (stemOfName name) home
            (home.follow testDirectory.toList)) := by
  intro modulePath home
  refine ⟨basicTemplate_imports jest named, ?_⟩
  rcases isPlainSegment_of_fileName? named with ⟨plain, unbrokenName⟩
  have unbroken := slash_not_mem_stemOfName unbrokenName
  rcases
    exists_parent?_testFilePath named record.language testDirectory with
    ⟨directory, isParent, place⟩
  refine ⟨directory, isParent, ?_⟩
  rw [follow_upwards unbroken, placeOf_withoutExtension named, place]
  exact up_enterSegment_eq_iff (stemOfName_ne_nil plain.nonempty)

/-- A test directory beside the source, told with dots and slashes of its own. -/
theorem jest_import_reaches_source_iff_beside :
    let source := "src/math.ts"
    let record : FunctionRecord :=
      { name := "add"
        code := "function add() \x7b\x7d"
        startLine := 0
        endLine := 0
        language := "typescript"
        parameters := []
        returnType := none }
    testFilePath source record.language "./spec/../tests/" =
        "src/./spec/../tests/math.test.ts" ∧
      ∃ directory,
        parent?
            (testFilePath source record.language
              "./spec/../tests/").toList =
          some directory ∧
        (placeOf directory).follow "../math".toList =
          placeOf (withoutExtension source.toList) := by
  intro source record
  have named : fileName? source.toList = some "math.ts".toList := by
    decide +kernel
  rcases
    jest_import_reaches_source_iff record "./spec/../tests/" (.inl rfl)
      named with
    ⟨-, directory, isParent, reaches⟩
  have leadsBack :
      LeadsBack (stemOfName "math.ts".toList)
        (placeOf ((parent? source.toList).getD []))
        ((placeOf ((parent? source.toList).getD [])).follow
          "./spec/../tests/".toList) :=
    @LeadsBack.below _ _ _ "tests".toList (by decide +kernel)
  exact ⟨by decide +kernel, directory, isParent, reaches.mpr leadsBack⟩

/-- From a test directory two levels down, the import leads into the directory
between, where the source is not. -/
theorem nested_directory_import_misses :
    let source := "src/math.ts"
    let record : FunctionRecord :=
      { name := "add"
        code := "function add() \x7b\x7d"
        startLine := 0
        endLine := 0
        language := "typescript"
        parameters := []
        returnType := none }
    let settings : Configuration.Settings :=
      { Configuration.Settings.standard with
        testDirectory := "tests/unit" }
    let directory := "src/tests/unit".toList
    settings.problem? = none ∧
      jestImport record (some source) =
        importLine "typescript" "add" "../math" ∧
      parent?
          (testFilePath source "typescript" settings.testDirectory).toList =
        some directory ∧
      (placeOf directory).follow "../math".toList =
        placeOf "src/tests/math".toList ∧
      placeOf (withoutExtension source.toList) =
        placeOf "src/math".toList ∧
      placeOf "src/tests/math".toList ≠ placeOf "src/math".toList := by
  decide +kernel

end TestScribe.Skeleton

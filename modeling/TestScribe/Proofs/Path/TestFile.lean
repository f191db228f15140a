import TestScribe.Proofs.Path.Place
import TestScribe.Proofs.Path.TextPath

/-!
# The name and the place of a test file

A test file is named after what is shown of the stem of its source, and its name
is never that of the source: the stem of its name is longer than that.  Its
directory is the test directory, joined to the directory of the source, so that
sources of one directory have the same test file exactly if the same is shown of
their stems.  Of a stem that is text, the stem itself is shown.
-/

namespace TestScribe.Path

open TestScribe.Text
open TestScribe.Workspace

/-! ## The name of the test file -/

/-- An extension is one dot and what stands behind it. -/
theorem exists_dotless_testFileExtension
    (language : String) :
    ∃ extension,
      (testFileExtension language).toList = '.' :: extension ∧
        '.' ∉ extension := by
  unfold testFileExtension
  split
  all_goals exact ⟨_, rfl, by decide⟩

theorem slash_not_mem_testFileExtension
    (language : String) :
    '/' ∉ (testFileExtension language).toList := by
  unfold testFileExtension
  split <;> decide

theorem slash_not_mem_testFileName
    {stem : List Char}
    (unbroken : '/' ∉ stem)
    (language : String) :
    '/' ∉ testFileName stem language := by
  have notInMark : '/' ∉ ".test".toList := by
    decide
  have notInExtension := slash_not_mem_testFileExtension language
  simp only [testFileName, List.mem_append]
  rintro ((inStem | inMark) | inExtension)
  · exact unbroken inStem
  · exact notInMark inMark
  · exact notInExtension inExtension

theorem isPlainSegment_testFileName
    (stem : List Char)
    (language : String) :
    IsPlainSegment (testFileName stem language) := by
  have mark : ".test".toList.length = 5 := by
    decide
  have long : 5 ≤ (testFileName stem language).length := by
    simp only [testFileName, List.length_append, mark]
    omega
  refine ⟨?_, ?_, ?_⟩
  · intro isEmpty
    rw [isEmpty] at long
    exact absurd long (by decide)
  · intro isDot
    rw [isDot] at long
    exact absurd long (by decide)
  · intro isUp
    rw [isUp] at long
    exact absurd long (by decide)

/-- Different stems make different names. -/
theorem testFileName_inj
    {stem other : List Char}
    {language : String} :
    testFileName stem language = testFileName other language ↔
      stem = other := by
  rw [testFileName, testFileName, List.append_left_inj,
    List.append_left_inj]

/-- The mark of a test file belongs to the stem of its name. -/
theorem isStem_testFileName
    (stem : List Char)
    (language : String) :
    IsStem (stem ++ ".test".toList) (testFileName stem language) := by
  rcases exists_dotless_testFileExtension language with
    ⟨extension, whole, dotless⟩
  rw [testFileName, whole]
  exact IsStem.cut (by simp) dotless

section Letters

variable
    {α : Type}
    [PathLetter α]

theorem testPath_eq_join
    [DecidableEq α]
    {source name above : List α}
    (named : fileName? source = some name)
    (isParent : parent? source = some above)
    (language testDirectory : String) :
    testPath source language testDirectory =
      join (join above (ofText testDirectory.toList))
        (ofText (testFileName (shown (stemOfName name)) language)) := by
  rw [testPath, fileStem?, named, isParent]
  rfl

variable
    [LawfulPathLetter α]

/-- The test file never has the name of its source. -/
theorem ofText_testFileName_ne
    {stem name : List α}
    (isStem : IsStem stem name)
    (language : String) :
    ofText (testFileName (shown stem) language) ≠ name := by
  intro same
  have testStem :
      IsStem (ofText (shown stem ++ ".test".toList)) name :=
    same ▸ (isStem_testFileName (shown stem) language).ofText
  have longer := congrArg shown (isStem.unique testStem)
  rw [shown_ofText] at longer
  have nothing := List.append_right_eq_self.mp longer.symm
  simp at nothing

variable
    [DecidableEq α]
    {source other name otherName above otherAbove : List α}

/-! ## The place of the test file -/

/-- The parts of a test file's path are those of its directory and its name. -/
theorem partsOf_testPath
    (named : fileName? source = some name)
    (isParent : parent? source = some above)
    (language testDirectory : String) :
    partsOf (testPath source language testDirectory) =
      partsOf (join above (ofText testDirectory.toList)) ++
        [.name
          (ofText (testFileName (shown (stemOfName name)) language))] := by
  have unbroken : slash ∉ stemOfName name :=
    slash_not_mem_stemOfName (isPlainSegment_of_fileName? named).2
  have shownUnbroken : '/' ∉ shown (stemOfName name) :=
    mt slash_mem_of_mem_shown unbroken
  rw [testPath_eq_join named isParent,
    partsOf_join_name _
      (isPlainSegment_ofText (isPlainSegment_testFileName _ language))
      (slash_not_mem_ofText
        (slash_not_mem_testFileName shownUnbroken language))]

theorem fileName?_testPath
    (named : fileName? source = some name)
    (language testDirectory : String) :
    fileName? (testPath source language testDirectory) =
      some
        (ofText (testFileName (shown (stemOfName name)) language)) := by
  rcases exists_parent?_of_fileName? named with ⟨above, isParent, -⟩
  rw [fileName?_eq_some_iff, partsOf_testPath named isParent,
    List.getLast?_concat]

/-- The parent of the test file is the test directory, joined to the parent of the
source. -/
theorem exists_parent?_testPath_samePath
    (named : fileName? source = some name)
    (isParent : parent? source = some above)
    (language testDirectory : String) :
    ∃ directory,
      parent? (testPath source language testDirectory) =
          some directory ∧
        SamePath directory
          (join above (ofText testDirectory.toList)) := by
  have testNamed := fileName?_testPath named language testDirectory
  rcases exists_parent?_of_fileName? testNamed with
    ⟨directory, testParent, parts⟩
  refine ⟨directory, testParent, ?_⟩
  rw [partsOf_testPath named isParent] at parts
  exact (List.append_cancel_right parts).symm

/-- Sources of one directory have the same test file if the same is shown of their
stems. -/
theorem samePath_testPath_iff
    (named : fileName? source = some name)
    (isParent : parent? source = some above)
    (otherNamed : fileName? other = some otherName)
    (otherParent : parent? other = some otherAbove)
    (sameParent : SamePath above otherAbove)
    (language testDirectory : String) :
    SamePath (testPath source language testDirectory)
        (testPath other language testDirectory) ↔
      shown (stemOfName name) = shown (stemOfName otherName) := by
  have sameDirectory :=
    sameParent.join (ofText testDirectory.toList)
  rw [SamePath, partsOf_testPath named isParent,
    partsOf_testPath otherNamed otherParent, sameDirectory,
    List.append_cancel_left_eq, List.cons.injEq, Component.name.injEq,
    ofText_inj, testFileName_inj, and_iff_left rfl]

end Letters

/-! ## Sources whose path is text -/

theorem toList_testFilePath
    (source language testDirectory : String) :
    (testFilePath source language testDirectory).toList =
      testPath source.toList language testDirectory :=
  String.toList_ofList

theorem testFileName_stemOfName_ne
    (name : List Char)
    (language : String) :
    testFileName (stemOfName name) language ≠ name :=
  ofText_testFileName_ne (isStem_stemOfName name) language

/-- The path of a test file ends with the name of the test file. -/
theorem getLast?_segmentsOf_testFilePath
    {source : String}
    {name : List Char}
    (plain : IsPlainSegment name)
    (isLast : (segmentsOf source.toList).getLast? = some name)
    (language testDirectory : String) :
    (segmentsOf
      (testFilePath source language testDirectory).toList).getLast? =
      some (testFileName (stemOfName name) language) := by
  have named := fileName?_of_getLast? plain isLast
  rcases exists_parent?_of_fileName? named with ⟨above, isParent, -⟩
  have unbroken : '/' ∉ stemOfName name :=
    slash_not_mem_stemOfName
      (slash_not_mem_of_mem_segmentsOf (List.mem_of_getLast? isLast))
  simp only [toList_testFilePath, testPath_eq_join named isParent,
    ofText_char, shown_char]
  rw [segmentsOf_join _ (isPlainSegment_testFileName _ _).nonempty
      (slash_not_mem_testFileName unbroken language),
    List.getLast?_concat]

/-- The directory of the test file is where the test directory leads from the
directory of the source. -/
theorem exists_parent?_testFilePath
    {source : String}
    {name : List Char}
    (named : fileName? source.toList = some name)
    (language testDirectory : String) :
    ∃ directory,
      parent? (testFilePath source language testDirectory).toList =
          some directory ∧
        placeOf directory =
          (placeOf ((parent? source.toList).getD [])).follow
            testDirectory.toList := by
  rcases exists_parent?_of_fileName? named with ⟨above, isParent, -⟩
  rcases
    exists_parent?_testPath_samePath named isParent language
      testDirectory with
    ⟨directory, testParent, same⟩
  rw [toList_testFilePath]
  refine ⟨directory, testParent, ?_⟩
  rw [same.placeOf_eq, placeOf, ofText_char, Place.follow_join, isParent]
  rfl

/-! ## Sources on a file system -/

/-- The name is text. -/
def IsText
    (name : List UInt8) : Prop :=
  ∃ text, name = ofText text

/-- The stem of a name that is text is text. -/
theorem IsText.stem
    {stem name : List UInt8}
    (isText : IsText name)
    (isStem : IsStem stem name) :
    IsText stem := by
  rcases isText with ⟨text, rfl⟩
  exact ⟨_, isStem.unique (isStem_stemOfName text).ofText⟩

/-- What is shown of a text is the text. -/
theorem IsText.ofText_shown
    {name : List UInt8}
    (isText : IsText name) :
    ofText (shown name) = name := by
  rcases isText with ⟨text, rfl⟩
  rw [shown_ofText]

theorem IsText.shown_inj
    {name other : List UInt8}
    (isText : IsText name)
    (otherToo : IsText other) :
    shown name = shown other ↔ name = other := by
  rw [← ofText_inj (α := UInt8), isText.ofText_shown,
    otherToo.ofText_shown]

/--
A test file is called after what is shown of the stem of its source, behind which
stand `.test` and the extension of the language; this is never the name of the
source.  Its parent is the test directory, joined to the parent of the source, or
the test directory alone if that begins at the root.  Sources with the same parent
have the same test file exactly if the same is shown of their stems.  Of a name
that is text the stem is text and shown as it is, so that the test file is called
after the stem itself, and among such names only equal stems have the same test
file.  A source whose whole path is text has the test file that is told from that
text.
-/
theorem testPath_named_after_source
    {source name : List UInt8}
    (named : fileName? source = some name)
    (language testDirectory : String) :
    let testSource := testPath source language testDirectory
    let mark := ".test".toList ++ (testFileExtension language).toList
    ∃ stem above directory,
      IsStem stem name ∧
      fileName? testSource = some (ofText (shown stem ++ mark)) ∧
      ofText (shown stem ++ mark) ≠ name ∧
      (IsText name → IsText stem) ∧
      (IsText stem →
        fileName? testSource = some (stem ++ ofText mark)) ∧
      parent? source = some above ∧
      parent? testSource = some directory ∧
      SamePath directory (join above (ofText testDirectory.toList)) ∧
      (isAbsolute testDirectory.toList = true →
        SamePath directory (ofText testDirectory.toList)) ∧
      (∀ other otherName otherStem otherAbove : List UInt8,
        fileName? other = some otherName →
          IsStem otherStem otherName →
            parent? other = some otherAbove →
              SamePath above otherAbove →
                (SamePath testSource
                    (testPath other language testDirectory) ↔
                  shown stem = shown otherStem) ∧
                (IsText stem →
                  IsText otherStem →
                    (SamePath testSource
                        (testPath other language testDirectory) ↔
                      stem = otherStem))) ∧
      ∀ text : String,
        source = ofText text.toList →
          testSource =
            ofText (testFilePath text language testDirectory).toList := by
  intro testSource mark
  rcases exists_parent?_of_fileName? named with ⟨above, isParent, -⟩
  rcases
    exists_parent?_testPath_samePath named isParent language
      testDirectory with
    ⟨directory, testParent, inDirectory⟩
  have isStem := isStem_stemOfName name
  have written :
      testFileName (shown (stemOfName name)) language =
        shown (stemOfName name) ++ mark :=
    List.append_assoc _ _ _
  have testNamed := fileName?_testPath named language testDirectory
  have differs := ofText_testFileName_ne isStem language
  rw [written] at testNamed differs
  refine
    ⟨stemOfName name, above, directory, isStem, testNamed, differs,
      fun isText => isText.stem isStem, ?asText, isParent, testParent,
      inDirectory, ?absolute, ?stems, ?wholeText⟩
  case asText =>
    intro isText
    rw [testNamed, ofText_append, isText.ofText_shown]
  case absolute =>
    intro absolute
    rw [← isAbsolute_ofText (α := UInt8)] at absolute
    rwa [join_of_isAbsolute absolute] at inDirectory
  case stems =>
    intro other otherName otherStem otherAbove otherNamed otherIsStem
      otherParent sameParent
    have same :=
      samePath_testPath_iff named isParent otherNamed otherParent
        sameParent language testDirectory
    rw [(isStem_stemOfName otherName).unique otherIsStem] at same
    refine ⟨same, fun isText otherIsText => ?_⟩
    rw [same, isText.shown_inj otherIsText]
  case wholeText =>
    rintro text rfl
    rw [toList_testFilePath]
    exact testPath_ofText text.toList language testDirectory

/-- A hidden source with two more dots, and another source with the same stem. -/
theorem testPath_named_after_source_hidden :
    let source : List UInt8 := ofText "./src//.a.test.ts/.".toList
    let other : List UInt8 := ofText "./src/./.a.test.js".toList
    let testSource := testPath source "typescript" "."
    fileName? source = some (ofText ".a.test.ts".toList) ∧
      fileName? testSource = some (ofText ".a.test.test.ts".toList) ∧
      (∃ directory,
        parent? testSource = some directory ∧
          SamePath directory (ofText "./src".toList)) ∧
      SamePath testSource (testPath other "typescript" ".") := by
  intro source other testSource
  have named :
      fileName? source = some (ofText ".a.test.ts".toList) := by
    decide +kernel
  have otherNamed :
      fileName? other = some (ofText ".a.test.js".toList) := by
    decide +kernel
  have parent : parent? source = some (ofText "./src".toList) := by
    decide +kernel
  have otherParent : parent? other = some (ofText "./src".toList) := by
    decide +kernel
  have stemOf
      (extension : List Char)
      (dotless : '.' ∉ extension) :
      IsStem (ofText ".a.test".toList : List UInt8)
        (ofText (".a.test".toList ++ '.' :: extension)) :=
    IsStem.ofText (.cut (by decide) dotless)
  rcases testPath_named_after_source named "typescript" "." with
    ⟨stem, above, directory, isStem, -, -, -, testNamed, isParent,
      testParent, inDirectory, -, sameStem, -⟩
  have stemEq : stem = ofText ".a.test".toList :=
    isStem.unique (stemOf "ts".toList (by decide))
  have aboveEq : above = ofText "./src".toList :=
    Option.some.inj (isParent.symm.trans parent)
  subst stemEq aboveEq
  refine
    ⟨named, testNamed ⟨_, rfl⟩, ⟨directory, testParent, inDirectory⟩, ?_⟩
  exact
    (sameStem other _ _ _ otherNamed
      (stemOf "js".toList (by decide)) otherParent rfl).1.mpr rfl

/-- Two sources in one directory whose stems differ in a byte that is no text share a
test file, and it is called after neither stem. -/
theorem testPath_shared_by_different_stems :
    let stem : List UInt8 := [0x61, 0xFF]
    let otherStem : List UInt8 := [0x61, 0xFE]
    let source := stem ++ ofText ".py".toList
    let other := otherStem ++ ofText ".py".toList
    let testSource := testPath source "python" "__tests__"
    (fileName? source = some source ∧ IsStem stem source ∧
        parent? source = some []) ∧
      (fileName? other = some other ∧ IsStem otherStem other ∧
        parent? other = some []) ∧
      fileName? testSource ≠ some (stem ++ ofText ".test.py".toList) ∧
      testSource = testPath other "python" "__tests__" ∧
      stem ≠ otherStem := by
  intro stem otherStem source other testSource
  have extension :
      (ofText ".py".toList : List UInt8) = dot :: ofText "py".toList := by
    decide
  have cutOff
      {front : List UInt8}
      (nonempty : front ≠ []) :
      IsStem front (front ++ ofText ".py".toList) := by
    rw [extension]
    exact IsStem.cut nonempty (by decide)
  have isStem : IsStem stem source := cutOff (by decide)
  have otherIsStem : IsStem otherStem other := cutOff (by decide)
  exact
    ⟨⟨by decide +kernel, isStem, by decide +kernel⟩,
      ⟨by decide +kernel, otherIsStem, by decide +kernel⟩,
      by decide +kernel, by decide +kernel, by decide⟩

end TestScribe.Path

import TestScribe.Path.TestFile
import TestScribe.Proofs.Path.FileName
import TestScribe.Proofs.Path.Parts

/-!
# Paths that are text

A path that is text can be taken as its characters or as what stands in the file
system for them, and everything that is asked of a path has the same answer both
ways: its components end at the same places of the text, and so it has the same
parent, file name and stem, and leads to the same path when something is joined
to it.
-/

namespace TestScribe.Path

open TestScribe.Source
open TestScribe.Workspace

variable
    {α : Type}
    [PathLetter α]

/-- The component of a text, as it stands in a path. -/
def Component.ofText :
    Component Char → Component α
  | .root => .root
  | .current => .current
  | .up => .up
  | .name text => .name (PathLetter.ofText text)

/-- A component of a path that is text, with the place where what stands in the path
for the text up to it ends. -/
def placedOfText
    (path : List Char)
    (placed : Component Char × Nat) :
    Component α × Nat :=
  (placed.1.ofText, (ofText (path.take placed.2) : List α).length)

variable
    [LawfulPathLetter α]

theorem ofText_intercalate
    (segments : List (List Char)) :
    (ofText (['/'].intercalate segments) : List α) =
      [slash].intercalate (segments.map ofText) := by
  induction segments with
  | nil => exact ofText_nil
  | cons segment segments ih =>
      cases segments with
      | nil =>
          rw [List.map_singleton, List.intercalate_singleton,
            List.intercalate_singleton]
      | cons next segments =>
          rw [List.intercalate_cons_cons, List.map_cons, List.map_cons,
            List.intercalate_cons_cons, ofText_append, ofText_append, ih,
            ofText_slash, List.map_cons]

/-- A text that is a name stands for a name in a path. -/
theorem isPlainSegment_ofText
    {name : List Char}
    (plain : IsPlainSegment name) :
    IsPlainSegment (ofText name : List α) where
  nonempty := mt ofText_eq_nil_iff.mp plain.nonempty
  notCurrent := by
    rw [← ofText_dot, ne_eq, ofText_inj]
    exact plain.notCurrent
  notUp := by
    rw [← ofText_dot, ← ofText_dot_cons, ne_eq, ofText_inj]
    exact plain.notUp

theorem ofText_singleton_ne_nil
    (character : Char) :
    (ofText [character] : List α) ≠ [] :=
  mt ofText_eq_nil_iff.mp (List.cons_ne_nil character [])

theorem getLast?_ofText_eq_slash_iff
    {text : List Char} :
    (ofText text : List α).getLast? = some slash ↔
      text.getLast? = some '/' := by
  rcases List.eq_nil_or_concat text with rfl | ⟨front, last, rfl⟩
  · simp [ofText_nil]
  · have nonempty := ofText_singleton_ne_nil (α := α) last
    rw [List.concat_eq_append, ofText_append, List.getLast?_concat,
      List.getLast?_append, List.getLast?_eq_some_getLast nonempty,
      Option.some_or, Option.some.injEq, Option.some.injEq]
    constructor
    · intro isSlash
      by_contra differs
      apply LawfulPathLetter.slash_not_mem (α := α) differs
      rw [← isSlash]
      exact List.getLast_mem nonempty
    · rintro rfl
      simp only [ofText_slash, List.getLast_singleton]

/-- The stem of a text is the stem of what stands in the path for it. -/
theorem IsStem.ofText
    {stem name : List Char}
    (isStem : IsStem stem name) :
    IsStem (Path.ofText stem : List α) (Path.ofText name) := by
  cases isStem with
  | cut nonempty dotless =>
      rw [dot_char, ofText_append, ofText_dot_cons]
      exact
        .cut (mt ofText_eq_nil_iff.mp nonempty)
          (dot_not_mem_ofText dotless)
  | whole dotless =>
      -- Only a dot at the front is allowed, and it is written as one letter.
      refine .whole ?_
      cases stem with
      | nil =>
          rw [ofText_nil]
          exact List.not_mem_nil
      | cons first rest =>
          by_cases isDot : first = '.'
          · rw [isDot, ofText_dot_cons]
            exact dot_not_mem_ofText dotless
          · rw [ofText_cons]
            intro inTail
            rcases List.mem_append.mp (List.mem_of_mem_tail inTail) with
              inFirst | inRest
            · exact LawfulPathLetter.dot_not_mem isDot inFirst
            · exact dot_not_mem_ofText dotless inRest

variable
    [DecidableEq α]

/-! ## Components -/

/-- A path is cut where its text is. -/
theorem splitOn_ofText
    (text : List Char) :
    (ofText text : List α).splitOn slash =
      (text.splitOn '/').map ofText := by
  have whole :
      (ofText text : List α) =
        [slash].intercalate ((text.splitOn '/').map ofText) := by
    rw [← ofText_intercalate, List.intercalate_splitOn]
  have nonempty : (text.splitOn '/').map (ofText (α := α)) ≠ [] := by
    simp [List.splitOn_ne_nil]
  have unbroken :
      ∀ segment ∈ (text.splitOn '/').map (ofText (α := α)),
        slash ∉ segment := by
    intro segment member
    rcases List.mem_map.mp member with ⟨piece, isPiece, rfl⟩
    exact slash_not_mem_ofText (separator_not_mem_of_mem_splitOn isPiece)
  rw [whole, List.splitOn_intercalate slash unbroken nonempty]

theorem segmentComponent?_ofText
    (isFirst : Bool)
    (segment : List Char) :
    segmentComponent? isFirst (ofText segment : List α) =
      (segmentComponent? isFirst segment).map Component.ofText := by
  have empty : (ofText segment : List α) = [] ↔ segment = [] :=
    ofText_eq_nil_iff
  have current : (ofText segment : List α) = [dot] ↔ segment = ['.'] := by
    rw [← ofText_dot, ofText_inj]
  have isUp :
      (ofText segment : List α) = [dot, dot] ↔ segment = ['.', '.'] := by
    rw [← ofText_dot, ← ofText_dot_cons, ofText_inj]
  simp only [segmentComponent?, beq_iff_eq, empty, current, isUp,
    dot_char]
  split
  · rfl
  · split
    · cases isFirst <;> rfl
    · split <;> rfl

/-- The components of the segments behind a front of the path.  Places are counted in
the text on one side and in what stands for it on the other. -/
theorem segmentComponents_ofText
    {path before : List Char}
    {segments : List (List Char)}
    (isFirst : Bool)
    (whole : path = before ++ ['/'].intercalate segments) :
    segmentComponents isFirst (ofText before : List α).length
        (segments.map (ofText (α := α))) =
      (segmentComponents isFirst before.length segments).map
        (placedOfText path) := by
  -- The front grows by each segment and its slash, while the path stays the same.
  induction segments generalizing isFirst before with
  | nil => rfl
  | cons segment segments ih =>
      have isFront : before ++ segment <+: path := by
        rw [whole, List.prefix_append_right_inj]
        simpa using
          intercalate_isPrefix_append (List.cons_ne_nil segment [])
            segments
      have stopEq :
          path.take (before.length + segment.length) =
            before ++ segment := by
        rw [← List.length_append]
        exact (List.prefix_iff_eq_take.mp isFront).symm
      have further :
          segmentComponents false
              ((ofText before : List α).length +
                (ofText segment : List α).length + 1)
              (segments.map (ofText (α := α))) =
            (segmentComponents false
              (before.length + segment.length + 1) segments).map
              (placedOfText path) := by
        cases segments with
        | nil => rfl
        | cons next segments =>
            have longer :
                path =
                  before ++ segment ++ ['/'] ++
                    ['/'].intercalate (next :: segments) := by
              rw [whole, List.intercalate_cons_cons]
              simp only [List.append_assoc]
            simpa only [ofText_append, ofText_slash,
              List.length_append, List.length_singleton] using
              ih false longer
      rw [List.map_cons, segmentComponents, segmentComponents,
        segmentComponent?_ofText, further]
      cases segmentComponent? isFirst segment with
      | none => rfl
      | some component =>
          rw [Option.map_some, List.map_cons, placedOfText, stopEq,
            ofText_append, List.length_append]

theorem isAbsolute_ofText
    (path : List Char) :
    isAbsolute (ofText path : List α) = isAbsolute path := by
  cases path with
  | nil =>
      rw [ofText_nil]
      rfl
  | cons first path =>
      rw [ofText_cons, isAbsolute_append (ofText_singleton_ne_nil first)]
      by_cases isSlash : first = '/'
      · rw [isSlash, ofText_slash]
        simp [isAbsolute]
      · rw [isAbsolute_of_slash_not_mem
          (LawfulPathLetter.slash_not_mem isSlash)]
        simp [isAbsolute, isSlash]

/-- The components of a path are those of its text. -/
theorem components_ofText
    (path : List Char) :
    components (ofText path : List α) =
      (components path).map (placedOfText path) := by
  have whole : path = [] ++ ['/'].intercalate (path.splitOn '/') := by
    rw [List.intercalate_splitOn, List.nil_append]
  have segments := segmentComponents_ofText (α := α) true whole
  rw [ofText_nil, List.length_nil, List.length_nil] at segments
  rw [components, components, splitOn_ofText, segments, slash_char,
    List.map_append, isAbsolute_ofText]
  cases absolute : isAbsolute path with
  | false => rfl
  | true =>
      rcases List.head?_eq_some_iff.mp (beq_iff_eq.mp absolute) with
        ⟨rest, rfl⟩
      have root :
          placedOfText (slash :: rest) (.root, 1) =
            ((.root, 1) : Component α × Nat) := by
        rw [placedOfText, List.take_succ_cons, List.take_zero,
          slash_char, ofText_slash]
        rfl
      rw [if_pos rfl, if_pos rfl, List.map_singleton, root]

/-! ## Parts and joined paths -/

/-- The parent of a path is that of its text. -/
theorem parent?_ofText
    (path : List Char) :
    parent? (ofText path : List α) = (parent? path).map ofText := by
  have takeEq (stop : Nat) :
      (ofText path : List α).take
          (ofText (path.take stop) : List α).length =
        ofText (path.take stop) := by
    have whole :=
      ofText_append (α := α) (path.take stop) (path.drop stop)
    rw [List.take_append_drop] at whole
    rw [whole, List.take_left]
  rw [parent?, parent?, components_ofText, ← List.map_reverse]
  rcases (components path).reverse with
    _ | ⟨⟨component, stop⟩, _ | ⟨⟨previous, place⟩, before⟩⟩
  · rfl
  · cases component with
    | root => rfl
    | _ => exact congrArg some ofText_nil.symm
  · cases component with
    | root => rfl
    | _ => exact congrArg some (takeEq place)

/-- The file name of a path is that of its text. -/
theorem fileName?_ofText
    (path : List Char) :
    fileName? (ofText path : List α) = (fileName? path).map ofText := by
  rw [fileName?, fileName?, components_ofText, List.getLast?_map]
  rcases (components path).getLast? with _ | ⟨component, stop⟩
  · rfl
  · cases component <;> rfl

theorem join_ofText
    (base path : List Char) :
    join (ofText base : List α) (ofText path) = ofText (join base path) := by
  have empty : (ofText base : List α) = [] ↔ base = [] :=
    ofText_eq_nil_iff
  simp only [join, isAbsolute_ofText, beq_iff_eq, empty,
    getLast?_ofText_eq_slash_iff, slash_char]
  split
  · rfl
  · split
    · rw [ofText_append]
    · rw [ofText_append, ofText_slash_cons]

/-! ## Stems -/

theorem stemOfName_ofText
    (name : List Char) :
    stemOfName (ofText name : List α) = ofText (stemOfName name) :=
  (isStem_stemOfName _).unique (isStem_stemOfName name).ofText

/-- The test file of a source whose path is text is the one for that text. -/
theorem testPath_ofText
    (source : List Char)
    (language testDirectory : String) :
    testPath (ofText source : List α) language testDirectory =
      ofText (testPath source language testDirectory) := by
  have directory :
      ((parent? source).map (ofText (α := α))).getD [] =
        ofText ((parent? source).getD []) := by
    cases parent? source with
    | none => exact ofText_nil.symm
    | some above => rfl
  have stem :
      (fileStem? (ofText source : List α)).map shown =
        (fileStem? source).map shown := by
    rw [fileStem?, fileStem?, fileName?_ofText]
    cases fileName? source with
    | none => rfl
    | some name =>
        simp [stemOfName_ofText, shown_ofText]
  rw [testPath, testPath, parent?_ofText, directory, stem, join_ofText,
    join_ofText]
  rfl

end TestScribe.Path

import TestScribe.Proofs.Path.Letter
import TestScribe.Proofs.Source.Lines
import TestScribe.Workspace.Access

/-!
# The segments of a path

A path is cut at its slashes, and empty segments say nothing.  A name that is
joined to a path becomes its last segment, and a last segment that is no run of
dots is the path's file name.
-/

namespace TestScribe.Workspace

open TestScribe.Path
open TestScribe.Source

/-- A segment that names something below a directory. -/
structure IsPlainSegment {α : Type} [PathLetter α]
    (segment : List α) :
    Prop where
  nonempty : segment ≠ []
  notCurrent : segment ≠ [dot]
  notUp : segment ≠ [dot, dot]

theorem step_of_isPlainSegment
    {segment : List Char}
    (plain : IsPlainSegment segment)
    (location : Location) :
    step location segment = location ++ [segment] := by
  have notCurrent : segment ≠ ['.'] := plain.notCurrent
  have notUp : segment ≠ ['.', '.'] := plain.notUp
  rw [step, if_neg notCurrent, if_neg notUp]

/-! ## Cutting a path -/

/-- Paths on both sides of a slash are cut on their own. -/
theorem segmentsOf_append_slash
    (first second : List Char) :
    segmentsOf (first ++ '/' :: second) =
      segmentsOf first ++ segmentsOf second := by
  rw [segmentsOf, List.splitOn_append_cons_self, List.filter_append]
  rfl

theorem segmentsOf_of_slash_not_mem
    {name : List Char}
    (nonempty : name ≠ [])
    (unbroken : '/' ∉ name) :
    segmentsOf name = [name] := by
  rw [segmentsOf, List.splitOn_eq_singleton unbroken,
    List.filter_cons_of_pos (by simp [nonempty]), List.filter_nil]

theorem slash_not_mem_of_mem_segmentsOf
    {path segment : List Char}
    (member : segment ∈ segmentsOf path) :
    '/' ∉ segment :=
  separator_not_mem_of_mem_splitOn (List.mem_filter.mp member).1

theorem ne_nil_of_mem_segmentsOf
    {path segment : List Char}
    (member : segment ∈ segmentsOf path) :
    segment ≠ [] := by
  have test := (List.mem_filter.mp member).2
  exact bne_iff_ne.mp test

/-- A path without segments consists of slashes. -/
theorem eq_slash_of_segmentsOf_eq_nil
    {path : List Char}
    (nothing : segmentsOf path = []) :
    ∀ character ∈ path, character = '/' := by
  induction path with
  | nil =>
      intro character member
      cases member
  | cons first path ih =>
      rw [segmentsOf, List.splitOn_cons_eq_if_modifyHead] at nothing
      split at nothing
      · next isSlash =>
        intro character member
        rcases List.mem_cons.mp member with isFirst | later
        · rw [isFirst]
          exact beq_iff_eq.mp isSlash
        · exact ih nothing character later
      · -- The first character would be in a segment.
        have restNonempty := List.splitOn_ne_nil '/' path
        rcases List.exists_cons_of_ne_nil restNonempty with
          ⟨piece, others, cut⟩
        rw [cut, List.modifyHead_cons,
          List.filter_cons_of_pos (by simp)] at nothing
        cases nothing

/-- A path that asks for no directory has a last segment. -/
theorem segmentsOf_ne_nil
    {path : List Char}
    (nonempty : path ≠ [])
    (noSlash : endsWithSlash path = false) :
    segmentsOf path ≠ [] := by
  intro nothing
  have isLast := List.getLast?_eq_some_getLast nonempty
  have isSlash :=
    eq_slash_of_segmentsOf_eq_nil nothing _
      (List.getLast_mem nonempty)
  rw [endsWithSlash, isLast, isSlash, BEq.rfl] at noSlash
  cases noSlash

/-! ## Joining a name -/

/-- A name that is joined to a path is the last segment. -/
theorem segmentsOf_join
    (base : List Char)
    {name : List Char}
    (nonempty : name ≠ [])
    (unbroken : '/' ∉ name) :
    segmentsOf (join base name) = segmentsOf base ++ [name] := by
  have relative : isAbsolute name = false := by
    cases name with
    | nil => rfl
    | cons first name =>
        have notSlash : first ≠ '/' := by
          intro isSlash
          exact unbroken (isSlash ▸ List.mem_cons_self)
        simp [isAbsolute, notSlash]
  have nameAlone := segmentsOf_of_slash_not_mem nonempty unbroken
  rw [join, relative, if_neg Bool.false_ne_true, slash_char]
  split
  · next noSeparator =>
    rcases List.eq_nil_or_concat base with isEmpty | ⟨front, last, whole⟩
    · rw [isEmpty, List.nil_append, nameAlone]
      rfl
    · rw [List.concat_eq_append] at whole
      have isSlash : last = '/' := by
        simpa [whole] using noSeparator
      have trailing := segmentsOf_append_slash front []
      have nothing : segmentsOf [] = [] := by
        decide
      rw [nothing, List.append_nil] at trailing
      rw [whole, isSlash, List.append_assoc, List.singleton_append,
        segmentsOf_append_slash, trailing, nameAlone]
  · rw [segmentsOf_append_slash, nameAlone]

/-! ## The file name of a path -/

section Letters

variable
    {α : Type}
    [DecidableEq α]
    [PathLetter α]

/-- A plain segment stands for a name. -/
theorem segmentComponent?_of_isPlainSegment
    {segment : List α}
    (isFirst : Bool)
    (plain : IsPlainSegment segment) :
    segmentComponent? isFirst segment = some (.name segment) := by
  simp [segmentComponent?, plain.nonempty, plain.notCurrent,
    plain.notUp]

theorem segmentComponents_eq_nil
    {segments : List (List α)}
    (isFirst : Bool)
    (start : Nat)
    (nothing : segments.filter (· != []) = []) :
    segmentComponents isFirst start segments = [] := by
  induction segments generalizing isFirst start with
  | nil => rfl
  | cons segment segments ih =>
      have isEmpty : segment = [] := by
        have fails := List.filter_eq_nil_iff.mp nothing segment
          List.mem_cons_self
        simpa using fails
      subst isEmpty
      have noComponent :
          segmentComponent? isFirst ([] : List α) = none :=
        rfl
      rw [List.filter_cons_of_neg (by simp)] at nothing
      simp only [segmentComponents, noComponent, ih _ _ nothing]

/-- The component of the last segment is the last one. -/
theorem getLast?_segmentComponents
    {segments : List (List α)}
    {name : List α}
    (isFirst : Bool)
    (start : Nat)
    (plain : IsPlainSegment name)
    (isLast : (segments.filter (· != [])).getLast? = some name) :
    ∃ stop,
      (segmentComponents isFirst start segments).getLast? =
        some (.name name, stop) := by
  induction segments generalizing isFirst start with
  | nil => cases isLast
  | cons segment segments ih =>
      rw [segmentComponents]
      by_cases nothing : segments.filter (· != []) = []
      · have isName : segment = name := by
          rw [List.filter_cons, nothing] at isLast
          split at isLast
          · exact Option.some.inj isLast
          · cases isLast
        rw [segmentComponents_eq_nil _ _ nothing, isName,
          segmentComponent?_of_isPlainSegment isFirst plain]
        exact ⟨_, rfl⟩
      · rcases List.exists_cons_of_ne_nil nothing with
          ⟨next, others, further⟩
        have laterLast :
            (segments.filter (· != [])).getLast? = some name := by
          rw [List.filter_cons] at isLast
          split at isLast
          · rwa [further, List.getLast?_cons_cons, ← further] at isLast
          · exact isLast
        rcases ih false (start + segment.length + 1) laterLast with
          ⟨stop, found⟩
        refine ⟨stop, ?_⟩
        split
        · rw [List.getLast?_cons, found]
          rfl
        · exact found

end Letters

/-- A last segment that is no run of dots is the file name. -/
theorem fileName?_of_getLast?
    {path name : List Char}
    (plain : IsPlainSegment name)
    (isLast : (segmentsOf path).getLast? = some name) :
    fileName? path = some name := by
  rcases getLast?_segmentComponents true 0 plain isLast with
    ⟨stop, found⟩
  rw [fileName?, components, slash_char, List.getLast?_append, found]
  rfl

end TestScribe.Workspace

import TestScribe.Proofs.Path.Parts

/-!
# The parent of a path in its text

A path that ends in a part is cut into the segments of its parent, a row of
single dots and one more segment.  Its parent ends in a part again, or is empty
or the root alone, so that the directories above a path can be taken one by one.
-/

namespace TestScribe.Path

open TestScribe.Workspace

variable
    {path : List Char}

/-- The text of a path ends with its last part. -/
def EndsInPart
    (path : List Char) :
    Prop :=
  ∃ front segment component,
    path.splitOn '/' = front ++ [segment] ∧
      segmentComponent? front.isEmpty segment = some component

/-- Segments without parts are single dots. -/
theorem eq_dot_of_segmentComponents_eq_nil
    {isFirst : Bool}
    {start : Nat}
    {segments : List (List Char)}
    (nothing : segmentComponents isFirst start segments = []) :
    ∀ segment ∈ segments.filter (· != []), segment = ['.'] := by
  induction segments generalizing isFirst start with
  | nil => exact List.forall_mem_nil _
  | cons first segments ih =>
      rw [segmentComponents] at nothing
      cases own : segmentComponent? isFirst first with
      | some component =>
          rw [own] at nothing
          cases nothing
      | none =>
          rw [own] at nothing
          intro segment member
          rw [List.filter_cons] at member
          split at member
          · next nonempty =>
            rcases List.mem_cons.mp member with rfl | later
            · rw [segmentComponent?] at own
              split at own
              · next isEmpty => simp [beq_iff_eq.mp isEmpty] at nonempty
              · split at own
                · next isDot => exact beq_iff_eq.mp isDot
                · split at own <;> cases own
            · exact ih nothing segment later
          · exact ih nothing segment member

theorem ne_nil_of_segmentComponent?
    {isFirst : Bool}
    {segment : List Char}
    {component : Component Char}
    (own : segmentComponent? isFirst segment = some component) :
    segment ≠ [] := by
  rintro rfl
  cases own

theorem segmentComponent?_ne_root
    (isFirst : Bool)
    (segment : List Char) :
    segmentComponent? isFirst segment ≠ some .root := by
  intro isRoot
  rw [segmentComponent?] at isRoot
  split at isRoot
  · cases isRoot
  · split at isRoot
    · split at isRoot <;> cases isRoot
    · split at isRoot <;> cases isRoot

/-- A path that is not empty and ends with no slash is cut into a front and a last
segment that is not empty. -/
theorem exists_last_of_endsWithSlash_eq_false
    (nonempty : path ≠ [])
    (noSlash : endsWithSlash path = false) :
    ∃ front last, path.splitOn '/' = front ++ [last] ∧ last ≠ [] := by
  by_cases slash : '/' ∈ path
  · rcases List.eq_append_cons_of_mem (List.mem_reverse.mpr slash) with
      ⟨behind, before, reversed, unbroken⟩
    have whole : path = before.reverse ++ '/' :: behind.reverse := by
      rw [← List.reverse_reverse path, reversed]
      simp
    rw [← List.mem_reverse] at unbroken
    refine ⟨before.reverse.splitOn '/', behind.reverse, ?_, ?_⟩
    · rw [whole, List.splitOn_append_cons_self,
        List.splitOn_eq_singleton unbroken]
    · intro nothing
      rw [whole, nothing, endsWithSlash, List.getLast?_concat,
        BEq.rfl] at noSlash
      cases noSlash
  · exact
      ⟨[], path, List.splitOn_eq_singleton slash, nonempty⟩

/-- A path whose last segment is a name ends in a part, unless a slash stands
behind the name. -/
theorem endsInPart_of_getLast?
    {name : List Char}
    (plain : IsPlainSegment name)
    (noSlash : endsWithSlash path = false)
    (isLast : (segmentsOf path).getLast? = some name) :
    EndsInPart path := by
  have nonempty : path ≠ [] := by
    rintro rfl
    cases isLast
  rcases exists_last_of_endsWithSlash_eq_false nonempty noSlash with
    ⟨front, last, cut, notEmpty⟩
  have isName : last = name := by
    rw [segmentsOf, cut, List.filter_append,
      List.filter_cons_of_pos (by simp [notEmpty]), List.filter_nil,
      List.getLast?_concat] at isLast
    exact Option.some.inj isLast
  refine ⟨front, last, .name name, cut, ?_⟩
  rw [isName]
  exact segmentComponent?_of_isPlainSegment _ plain

/--
The segments of a path that ends in a part are those of its parent, single dots
and its last segment.
-/
theorem EndsInPart.exists_parent?
    (ends : EndsInPart path) :
    ∃ above dots last,
      parent? path = some above ∧
        above <+: path ∧
        isAbsolute above = isAbsolute path ∧
        segmentsOf path = segmentsOf above ++ (dots ++ [last]) ∧
        (∀ dot ∈ dots, dot = ['.']) ∧
        (above = [] ∨ above = ['/'] ∨ EndsInPart above) := by
  rcases ends with ⟨front, segment, component, cut, isComponent⟩
  have nonempty := ne_nil_of_segmentComponent? isComponent
  have segments :
      segmentsOf path = front.filter (· != []) ++ [segment] := by
    rw [segmentsOf, cut, List.filter_append,
      List.filter_cons_of_pos (by simp [nonempty]), List.filter_nil]
  have notRoot : component ≠ .root := by
    rintro rfl
    exact segmentComponent?_ne_root _ _ isComponent
  have inSegments :
      segmentComponents true 0 (path.splitOn '/') =
        segmentComponents true 0 front ++
          [(component, (['/'].intercalate (front ++ [segment])).length)] := by
    rw [cut, segmentComponents_concat, Bool.true_and, isComponent,
      Nat.zero_add]
    rfl
  rcases List.eq_nil_or_concat (segmentComponents true 0 front) with
    nothing | ⟨before, ⟨previous, place⟩, earlier⟩
  · -- Before the last segment there are at most the root and single dots.
    have areDots := eq_dot_of_segmentComponents_eq_nil nothing
    rw [nothing, List.nil_append] at inSegments
    have whole := components.eq_def path
    rw [slash_char, inSegments] at whole
    cases absolute : isAbsolute path with
    | false =>
        rw [absolute, if_neg Bool.false_ne_true, List.nil_append] at whole
        exact
          ⟨[], _, segment, parent?_of_components_singleton notRoot whole,
            List.nil_prefix, rfl, segments, areDots, .inl rfl⟩
    | true =>
        rw [absolute, if_pos rfl, List.singleton_append] at whole
        rcases List.head?_eq_some_iff.mp (beq_iff_eq.mp absolute) with
          ⟨rest, rfl⟩
        have split :
            components ('/' :: rest) =
              [] ++ [(.root, 1), (component, _)] :=
          whole
        exact
          ⟨['/'], _, segment, parent?_of_components notRoot split,
            ⟨rest, rfl⟩, rfl, segments, areDots, .inr (.inl rfl)⟩
  · rw [List.concat_eq_append] at earlier
    rw [earlier, List.append_assoc, List.singleton_append] at inSegments
    rcases exists_segment_of_segmentComponents earlier with
      ⟨outer, inner, back, frontEq, -, isPrevious, placeEq, nothing⟩
    rw [Bool.true_and] at isPrevious
    rw [Nat.zero_add] at placeEq
    rw [List.append_cons] at frontEq
    have cutFront :
        path.splitOn '/' = (outer ++ [inner]) ++ (back ++ [segment]) := by
      rw [cut, frontEq, List.append_assoc]
    have cutAbove :=
      splitOn_take cutFront (List.concat_ne_nil inner outer)
    rw [← placeEq, slash_char] at cutAbove
    have split := components.eq_def path
    rw [slash_char, inSegments, ← List.append_assoc] at split
    have areDots := eq_dot_of_segmentComponents_eq_nil nothing
    refine
      ⟨path.take place, back.filter (· != []), segment,
        parent?_of_components notRoot split, List.take_prefix _ _,
        (segmentComponents_take inSegments).1, ?_, areDots,
        .inr (.inr ⟨outer, inner, previous, cutAbove, isPrevious⟩)⟩
    rw [segments, frontEq, segmentsOf, cutAbove, List.filter_append,
      List.append_assoc]

end TestScribe.Path

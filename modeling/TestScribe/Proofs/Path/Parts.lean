import TestScribe.Proofs.Workspace.Segments

/-!
# The parts of a path

A path is told by its parts: two paths with the same parts are the same path,
however many slashes and single dots stand in their texts.  Each part ends a
front of the text, which has the parts up to it.  Joining a path appends its
parts, and a path with a file name has that name behind the parts of its parent.
-/

namespace TestScribe.Path

open TestScribe.Source
open TestScribe.Workspace

variable
    {α : Type}
    [DecidableEq α]
    [PathLetter α]

/-! ## Components -/

theorem isAbsolute_append
    {first : List α}
    (nonempty : first ≠ [])
    (second : List α) :
    isAbsolute (first ++ second) = isAbsolute first := by
  rcases List.exists_cons_of_ne_nil nonempty with ⟨_, _, rfl⟩
  rfl

theorem isAbsolute_eq_false_iff
    {path : List α} :
    isAbsolute path = false ↔ ∀ rest, path ≠ slash :: rest := by
  cases path <;> simp [isAbsolute]

theorem isAbsolute_of_slash_not_mem
    {segment : List α}
    (unbroken : slash ∉ segment) :
    isAbsolute segment = false := by
  rw [isAbsolute_eq_false_iff]
  rintro rest rfl
  exact unbroken List.mem_cons_self

/-- The root alone is one component. -/
theorem components_slash :
    components [(slash : α)] = [(.root, 1)] := by
  have cut : [(slash : α)].splitOn slash = [[], []] := by
    simp [List.splitOn_cons_eq_if_modifyHead]
  simp [components, isAbsolute, cut, segmentComponents,
    segmentComponent?]

/-! ## Names -/

theorem eq_of_segmentComponent?_eq_name
    {isFirst : Bool}
    {segment text : List α}
    (own : segmentComponent? isFirst segment = some (.name text)) :
    segment = text ∧ IsPlainSegment segment := by
  rw [segmentComponent?] at own
  split at own
  · cases own
  · next nonempty =>
    split at own
    · split at own <;> cases own
    · next notCurrent =>
      split at own
      · cases own
      · next notUp =>
        cases own
        rw [beq_iff_eq] at nonempty notCurrent notUp
        exact ⟨rfl, nonempty, notCurrent, notUp⟩

theorem isPlainSegment_of_mem_segmentComponents
    {isFirst : Bool}
    {start stop : Nat}
    {segments : List (List α)}
    {text : List α}
    (member :
      (Component.name text, stop) ∈
        segmentComponents isFirst start segments) :
    IsPlainSegment text ∧ text ∈ segments := by
  induction segments generalizing isFirst start with
  | nil => cases member
  | cons segment segments ih =>
      rw [segmentComponents] at member
      cases own : segmentComponent? isFirst segment with
      | none =>
          rw [own] at member
          rcases ih member with ⟨plain, later⟩
          exact ⟨plain, List.mem_cons_of_mem _ later⟩
      | some component =>
          rw [own] at member
          rcases List.mem_cons.mp member with isOwn | later
          · cases isOwn
            rcases eq_of_segmentComponent?_eq_name own with ⟨rfl, plain⟩
            exact ⟨plain, List.mem_cons_self⟩
          · rcases ih later with ⟨plain, inRest⟩
            exact ⟨plain, List.mem_cons_of_mem _ inRest⟩

/-- The name of a file is no run of dots, and no slash is in it. -/
theorem isPlainSegment_of_fileName?
    {path name : List α}
    (named : fileName? path = some name) :
    IsPlainSegment name ∧ slash ∉ name := by
  rw [fileName?] at named
  split at named
  · next text stop isLast =>
    cases named
    have member := List.mem_of_getLast? isLast
    rw [components] at member
    rcases List.mem_append.mp member with isRoot | inSegments
    · split at isRoot
      · cases List.mem_singleton.mp isRoot
      · cases isRoot
    · rcases isPlainSegment_of_mem_segmentComponents inSegments with
        ⟨plain, isSegment⟩
      exact
        ⟨plain, separator_not_mem_of_mem_splitOn isSegment⟩
  · cases named

/-! ## Fronts of a path -/

/-- A last segment adds its component, which ends where the text does. -/
theorem segmentComponents_concat
    (isFirst : Bool)
    (start : Nat)
    (front : List (List α))
    (segment : List α) :
    segmentComponents isFirst start (front ++ [segment]) =
      segmentComponents isFirst start front ++
        ((segmentComponent? (isFirst && front.isEmpty) segment).map
          (·, start +
            ([slash].intercalate (front ++ [segment])).length)).toList := by
  induction front generalizing isFirst start with
  | nil =>
      rw [List.nil_append, segmentComponents, segmentComponents,
        List.intercalate_singleton, List.isEmpty_nil, Bool.and_true]
      cases segmentComponent? isFirst segment <;> rfl
  | cons first front ih =>
      have longer :
          start + first.length + 1 +
              ([slash].intercalate (front ++ [segment])).length =
            start +
              ([slash].intercalate (first :: front ++ [segment])).length := by
        rw [List.cons_append,
          List.intercalate_cons_of_ne_nil (List.concat_ne_nil _ _),
          List.length_append, List.length_append, List.length_singleton]
        omega
      rw [List.cons_append, segmentComponents, ih, segmentComponents,
        longer, Bool.false_and, List.isEmpty_cons, Bool.and_false]
      cases segmentComponent? isFirst first <;> rfl

/-- Each component is that of a segment, and ends where the segment does. -/
theorem exists_segment_of_segmentComponents
    {isFirst : Bool}
    {start stop : Nat}
    {segments : List (List α)}
    {before after : List (Component α × Nat)}
    {component : Component α}
    (split :
      segmentComponents isFirst start segments =
        before ++ (component, stop) :: after) :
    ∃ front segment back,
      segments = front ++ segment :: back ∧
        segmentComponents isFirst start front = before ∧
        segmentComponent? (isFirst && front.isEmpty) segment =
          some component ∧
        stop =
          start + ([slash].intercalate (front ++ [segment])).length ∧
        segmentComponents false (stop + 1) back = after := by
  induction segments generalizing isFirst start before with
  | nil => simp [segmentComponents] at split
  | cons first segments ih =>
      have longer
          {front : List (List α)}
          {segment : List α}
          (stopEq :
            stop =
              start + first.length + 1 +
                ([slash].intercalate (front ++ [segment])).length) :
          stop =
            start +
              ([slash].intercalate
                (first :: front ++ [segment])).length := by
        rw [List.cons_append,
          List.intercalate_cons_of_ne_nil (List.concat_ne_nil _ _),
          List.length_append, List.length_append,
          List.length_singleton, stopEq]
        omega
      rw [segmentComponents] at split
      cases own : segmentComponent? isFirst first with
      | none =>
          rw [own] at split
          rcases ih split with
            ⟨front, segment, back, rfl, earlier, isComponent, stopEq,
              later⟩
          refine
            ⟨first :: front, segment, back, rfl, ?_, ?_,
              longer stopEq, later⟩
          · rw [segmentComponents, own]
            exact earlier
          · rwa [List.isEmpty_cons, Bool.and_false]
      | some found =>
          rw [own] at split
          cases before with
          | nil =>
              rw [List.nil_append, List.cons.injEq] at split
              rcases split with ⟨same, later⟩
              cases same
              refine ⟨[], first, segments, rfl, rfl, ?_, ?_, later⟩
              · rwa [List.isEmpty_nil, Bool.and_true]
              · rw [List.nil_append, List.intercalate_singleton]
          | cons earliest before =>
              rw [List.cons_append, List.cons.injEq] at split
              rcases split with ⟨same, further⟩
              rcases ih further with
                ⟨front, segment, back, rfl, earlier, isComponent, stopEq,
                  later⟩
              refine
                ⟨first :: front, segment, back, rfl, ?_, ?_,
                  longer stopEq, later⟩
              · rw [segmentComponents, own, ← same, ← earlier]
              · rwa [List.isEmpty_cons, Bool.and_false]

theorem intercalate_isPrefix_append {β : Type}
    {separator : List β}
    {front : List (List β)}
    (nonempty : front ≠ [])
    (back : List (List β)) :
    separator.intercalate front <+: separator.intercalate (front ++ back) := by
  induction front with
  | nil => exact absurd rfl nonempty
  | cons segment front ih =>
      by_cases single : front = []
      · subst single
        rw [List.intercalate_singleton, List.singleton_append]
        cases back with
        | nil => exact ⟨[], by rw [List.intercalate_singleton, List.append_nil]⟩
        | cons next back =>
            rw [List.intercalate_cons_cons]
            exact ⟨_, (List.append_assoc _ _ _).symm⟩
      · rw [List.cons_append, List.intercalate_cons_of_ne_nil single,
          List.intercalate_cons_of_ne_nil (by simp [single]),
          List.prefix_append_right_inj]
        exact ih single

/-- The text up to the end of a segment is cut into the segments up to there. -/
theorem splitOn_take
    {path : List α}
    {front back : List (List α)}
    (segments : path.splitOn slash = front ++ back)
    (nonempty : front ≠ []) :
    (path.take ([slash].intercalate front).length).splitOn slash = front := by
  have whole : path = [slash].intercalate (front ++ back) := by
    rw [← segments, List.intercalate_splitOn]
  have taken :
      path.take ([slash].intercalate front).length =
        [slash].intercalate front := by
    rw [whole]
    exact
      (List.prefix_iff_eq_take.mp
        (intercalate_isPrefix_append nonempty back)).symm
  rw [taken]
  apply List.splitOn_intercalate slash _ nonempty
  intro segment member
  have isSegment : segment ∈ path.splitOn slash := by
    rw [segments]
    exact List.mem_append_left back member
  exact separator_not_mem_of_mem_splitOn isSegment

/-- The text up to the end of a segment's component has the components up to it. -/
theorem segmentComponents_take
    {path : List α}
    {before after : List (Component α × Nat)}
    {component : Component α}
    {stop : Nat}
    (split :
      segmentComponents true 0 (path.splitOn slash) =
        before ++ (component, stop) :: after) :
    isAbsolute (path.take stop) = isAbsolute path ∧
      segmentComponents true 0 ((path.take stop).splitOn slash) =
        before ++ [(component, stop)] := by
  rcases exists_segment_of_segmentComponents split with
    ⟨front, segment, back, segments, earlier, isComponent, stopEq, -⟩
  rw [Nat.zero_add] at stopEq
  rw [List.append_cons] at segments
  have cut := splitOn_take segments (List.concat_ne_nil segment front)
  rw [← stopEq] at cut
  have taken :
      segmentComponents true 0 ((path.take stop).splitOn slash) =
        before ++ [(component, stop)] := by
    rw [cut, segmentComponents_concat, earlier, isComponent, Nat.zero_add,
      ← stopEq]
    rfl
  refine ⟨?_, taken⟩
  have notEmpty : path.take stop ≠ [] := by
    intro isEmpty
    rw [isEmpty] at taken
    simp [segmentComponents, segmentComponent?] at taken
  rw [← isAbsolute_append notEmpty (path.drop stop),
    List.take_append_drop]

/-- The text of a path up to the end of a component has the components up to it. -/
theorem components_take
    {path : List α}
    {before after : List (Component α × Nat)}
    {component : Component α}
    {stop : Nat}
    (split : components path = before ++ (component, stop) :: after) :
    components (path.take stop) = before ++ [(component, stop)] := by
  rw [components] at split
  cases absolute : isAbsolute path with
  | false =>
      rw [absolute, if_neg Bool.false_ne_true, List.nil_append] at split
      rcases segmentComponents_take split with ⟨same, taken⟩
      rw [components, same, absolute, taken]
      rfl
  | true =>
      rw [absolute, if_pos rfl, List.singleton_append] at split
      cases before with
      | nil =>
          rw [List.nil_append, List.cons.injEq] at split
          cases split.1
          rcases List.head?_eq_some_iff.mp (beq_iff_eq.mp absolute) with
            ⟨rest, rfl⟩
          exact components_slash
      | cons first before =>
          rw [List.cons_append, List.cons.injEq] at split
          rcases segmentComponents_take split.2 with ⟨same, taken⟩
          rw [components, same, absolute, taken, ← split.1]
          rfl

/-! ## Parts -/

/-- What the segments stand for, without places in the text. -/
def segmentParts
    (isFirst : Bool) :
    List (List α) → List (Component α)
  | [] => []
  | segment :: segments =>
      (segmentComponent? isFirst segment).toList ++
        segmentParts false segments

/-- The parts of a path, in order. -/
def partsOf
    (path : List α) :
    List (Component α) :=
  (components path).map (·.1)

/-- The texts have the same parts. -/
def SamePath
    (first second : List α) :
    Prop :=
  partsOf first = partsOf second

variable
    {base first second path name : List α}

theorem map_fst_segmentComponents
    (isFirst : Bool)
    (start : Nat)
    (segments : List (List α)) :
    (segmentComponents isFirst start segments).map (·.1) =
      segmentParts isFirst segments := by
  induction segments generalizing isFirst start with
  | nil => rfl
  | cons segment segments ih =>
      rw [segmentComponents, segmentParts,
        ← ih false (start + segment.length + 1)]
      cases segmentComponent? isFirst segment with
      | none => rfl
      | some component => rfl

theorem segmentParts_append
    (isFirst : Bool)
    {front : List (List α)}
    (nonempty : front ≠ [])
    (back : List (List α)) :
    segmentParts isFirst (front ++ back) =
      segmentParts isFirst front ++ segmentParts false back := by
  induction front generalizing isFirst with
  | nil => exact absurd rfl nonempty
  | cons segment front ih =>
      rw [List.cons_append, segmentParts, segmentParts,
        List.append_assoc]
      by_cases single : front = []
      · rw [single, List.nil_append, segmentParts, List.nil_append]
      · rw [ih false single]

theorem segmentParts_splitOn_of_isPlainSegment
    (isFirst : Bool)
    (plain : IsPlainSegment name)
    (unbroken : slash ∉ name) :
    segmentParts isFirst (name.splitOn slash) = [.name name] := by
  rw [List.splitOn_eq_singleton unbroken, segmentParts,
    segmentComponent?_of_isPlainSegment isFirst plain]
  rfl

theorem partsOf_eq
    (path : List α) :
    partsOf path =
      (if isAbsolute path then [.root] else []) ++
        segmentParts true (path.splitOn slash) := by
  rw [partsOf, components, List.map_append,
    map_fst_segmentComponents]
  split <;> rfl

/-- Only the empty text has no parts. -/
theorem partsOf_eq_nil_iff :
    partsOf path = [] ↔ path = [] := by
  constructor
  · intro nothing
    rw [partsOf_eq, List.append_eq_nil_iff] at nothing
    rcases nothing with ⟨relative, nothing⟩
    cases path with
    | nil => rfl
    | cons first rest =>
        have notSlash : ¬ (first == slash) = true := by
          simpa [isAbsolute] using relative
        rcases List.exists_cons_of_ne_nil
            (List.splitOn_ne_nil slash rest) with
          ⟨piece, pieces, cut⟩
        rw [List.splitOn_cons_eq_if_modifyHead, if_neg notSlash, cut,
          List.modifyHead_cons, segmentParts, List.append_eq_nil_iff,
          segmentComponent?] at nothing
        -- A first segment that is not empty is some part.
        have part := nothing.1
        split at part
        · next isEmpty => simp at isEmpty
        · split at part
          · simp at part
          · split at part <;> simp at part
  · rintro rfl
    rfl

/-! ## Joined paths -/

/-- Behind a slash the parts are told on their own. -/
theorem partsOf_append_slash
    (front path : List α) :
    partsOf (front ++ slash :: path) =
      partsOf (front ++ [slash]) ++
        segmentParts false (path.splitOn slash) := by
  have sameStart :
      isAbsolute (front ++ slash :: path) =
        isAbsolute (front ++ [slash]) := by
    cases front with
    | nil => rfl
    | cons first front => rfl
  have trailing : segmentParts false (([] : List α).splitOn slash) = [] :=
    rfl
  have pieces := List.splitOn_ne_nil slash front
  rw [partsOf_eq, partsOf_eq, sameStart,
    List.splitOn_append_cons_self, List.splitOn_append_cons_self,
    segmentParts_append true pieces, segmentParts_append true pieces,
    trailing, List.append_nil, List.append_assoc]

/-- A slash behind a path is no part of it. -/
theorem partsOf_append_separator
    (nonempty : path ≠ []) :
    partsOf (path ++ [slash]) = partsOf path := by
  have trailing : segmentParts false (([] : List α).splitOn slash) = [] :=
    rfl
  rw [partsOf_eq, partsOf_eq, isAbsolute_append nonempty,
    List.splitOn_append_cons_self,
    segmentParts_append true (List.splitOn_ne_nil slash path), trailing,
    List.append_nil]

theorem join_of_isAbsolute
    (absolute : isAbsolute path = true)
    (base : List α) :
    join base path = path :=
  if_pos absolute

theorem join_nil
    (path : List α) :
    join [] path = path := by
  rw [join]
  split
  · rfl
  · exact if_pos (.inl rfl)

/-- A relative path that is joined to another appends its parts. -/
theorem partsOf_join
    (nonempty : base ≠ [])
    (relative : isAbsolute path = false) :
    partsOf (join base path) =
      partsOf base ++ segmentParts false (path.splitOn slash) := by
  rw [join, relative, if_neg Bool.false_ne_true]
  split
  · next noSeparator =>
    rcases List.eq_nil_or_concat base with isEmpty | ⟨front, last, whole⟩
    · exact absurd isEmpty nonempty
    · rw [List.concat_eq_append] at whole
      have isSlash : last = slash := by
        simpa [whole] using noSeparator
      have joined : base ++ path = front ++ slash :: path := by
        rw [whole, isSlash, List.append_assoc]
        rfl
      rw [joined, partsOf_append_slash, whole, isSlash]
  · rw [partsOf_append_slash, partsOf_append_separator nonempty]

/-- A name that is joined to a path is one more part. -/
theorem partsOf_join_name
    (base : List α)
    (plain : IsPlainSegment name)
    (unbroken : slash ∉ name) :
    partsOf (join base name) = partsOf base ++ [.name name] := by
  have relative := isAbsolute_of_slash_not_mem unbroken
  by_cases empty : base = []
  · rw [empty, join_nil, partsOf_eq, relative,
      segmentParts_splitOn_of_isPlainSegment true plain unbroken]
    rfl
  · rw [partsOf_join empty relative,
      segmentParts_splitOn_of_isPlainSegment false plain unbroken]

/-- Whatever is joined to the same path gives the same path. -/
theorem SamePath.join
    (same : SamePath first second)
    (path : List α) :
    SamePath (join first path) (join second path) := by
  cases absolute : isAbsolute path with
  | true =>
      rw [join_of_isAbsolute absolute, join_of_isAbsolute absolute]
      rfl
  | false =>
      have bothEmpty : first = [] ↔ second = [] := by
        rw [← partsOf_eq_nil_iff, same, partsOf_eq_nil_iff]
      by_cases empty : first = []
      · rw [empty, bothEmpty.mp empty]
        rfl
      · rw [SamePath, partsOf_join empty absolute,
          partsOf_join (mt bothEmpty.mpr empty) absolute, same]

/-! ## The file name and the parent -/

/-- The file name is the last part, if that is a name. -/
theorem fileName?_eq_some_iff :
    fileName? path = some name ↔
      (partsOf path).getLast? = some (.name name) := by
  rw [fileName?, partsOf, List.getLast?_map]
  constructor
  · intro named
    split at named
    · next isLast =>
      cases named
      rw [isLast]
      rfl
    · cases named
  · intro isLast
    rcases Option.map_eq_some_iff.mp isLast with
      ⟨⟨component, stop⟩, found, rfl⟩
    rw [found]

theorem parent?_of_components_singleton
    {component : Component α}
    {stop : Nat}
    (notRoot : component ≠ .root)
    (whole : components path = [(component, stop)]) :
    parent? path = some [] := by
  rw [parent?, whole]
  cases component with
  | root => exact absurd rfl notRoot
  | _ => rfl

/-- The parent of a path ends where its last component but one does. -/
theorem parent?_of_components
    {before : List (Component α × Nat)}
    {previous component : Component α}
    {place stop : Nat}
    (notRoot : component ≠ .root)
    (whole :
      components path = before ++ [(previous, place), (component, stop)]) :
    parent? path = some (path.take place) := by
  rw [parent?, whole, List.reverse_append]
  cases component with
  | root => exact absurd rfl notRoot
  | _ => rfl

/-- A path with a file name has that name behind the parts of its parent. -/
theorem exists_parent?_of_fileName?
    (named : fileName? path = some name) :
    ∃ above,
      parent? path = some above ∧
        partsOf path = partsOf above ++ [.name name] := by
  rw [fileName?] at named
  split at named
  · next text stop isLast =>
    cases named
    rcases List.getLast?_eq_some_iff.mp isLast with ⟨front, whole⟩
    have notRoot : Component.name name ≠ .root := by
      simp
    rcases List.eq_nil_or_concat front with rfl | ⟨before, last, frontEq⟩
    · refine ⟨[], parent?_of_components_singleton notRoot whole, ?_⟩
      rw [partsOf, whole]
      rfl
    · rcases last with ⟨component, place⟩
      have parts :
          components path =
            before ++ (component, place) :: [(.name name, stop)] := by
        rw [whole, frontEq, List.concat_eq_append, List.append_assoc]
        rfl
      refine
        ⟨path.take place, parent?_of_components notRoot parts, ?_⟩
      rw [partsOf, partsOf, components_take parts, parts,
        List.append_cons, List.map_append]
      rfl
  · cases named

end TestScribe.Path

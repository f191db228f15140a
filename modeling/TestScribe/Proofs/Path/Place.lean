import TestScribe.Proofs.Path.Parts

/-!
# The place that a path tells

A path is resolved by its text alone: a name leads down, two dots lead up again,
and neither a single dot nor a repeated slash leads anywhere.  Two dots behind
the last name are counted, except at the root.  What a joined path tells is what
its second part tells from where the first one leads, and paths with the same
parts tell the same place.
-/

namespace TestScribe.Path

open TestScribe.Source
open TestScribe.Workspace

/-! ## Places -/

/-- What the names of a place are counted from. -/
inductive Anchor where
  | root
  /-- So many levels above the directory that relative paths start from. -/
  | above (levels : Nat)
  deriving DecidableEq

/-- A file or directory as a path tells it, with no dots left. -/
structure Place where
  anchor : Anchor
  names : List (List Char)
  deriving DecidableEq

/-- One level up; the root is its own parent. -/
def Anchor.up : Anchor → Anchor
  | .root => .root
  | .above levels => .above (levels + 1)

namespace Place

/-- The directory that relative paths start from. -/
def start : Place :=
  ⟨.above 0, []⟩

def root : Place :=
  ⟨.root, []⟩

/-- One directory up. -/
def up
    (place : Place) :
    Place :=
  if place.names = [] then ⟨place.anchor.up, []⟩
  else ⟨place.anchor, place.names.dropLast⟩

/-- The file or directory of this name. -/
def below
    (place : Place)
    (name : List Char) :
    Place :=
  ⟨place.anchor, place.names ++ [name]⟩

/-- Where a component leads. -/
def enter
    (place : Place) :
    Component Char → Place
  | .root => root
  | .current => place
  | .up => place.up
  | .name text => place.below text

/-- Where a path leads, taken from a place. -/
def follow
    (place : Place)
    (path : List Char) :
    Place :=
  ((components path).map (·.1)).foldl enter place

end Place

/-- The place of a path. -/
def placeOf
    (path : List Char) :
    Place :=
  Place.start.follow path


namespace Place

variable
    {place directory : Place}
    {path segment name : List Char}

@[simp]
theorem up_below
    (place : Place)
    (name : List Char) :
    (place.below name).up = place := by
  simp [up, below]

theorem below_inj
    {other : Place}
    {otherName : List Char} :
    place.below name = other.below otherName ↔
      place = other ∧ name = otherName := by
  constructor
  · intro same
    have samePlace : place = other := by
      rw [← up_below place name, same, up_below]
    subst samePlace
    simpa [below] using same
  · rintro ⟨rfl, rfl⟩
    rfl

/-- One level up from a place is its directory, and the root is its own. -/
theorem up_eq_iff :
    place.up = directory ↔
      (∃ name, place = directory.below name) ∨
        place.names = [] ∧ directory = ⟨place.anchor.up, []⟩ := by
  constructor
  · rintro rfl
    by_cases nothing : place.names = []
    · right
      exact ⟨nothing, if_pos nothing⟩
    · left
      refine ⟨place.names.getLast nothing, ?_⟩
      rw [up, if_neg nothing, below, List.dropLast_concat_getLast]
  · rintro (⟨name, rfl⟩ | ⟨nothing, rfl⟩)
    · exact up_below directory name
    · exact if_pos nothing

/-! ## Segments -/

/-- Where a segment leads. -/
def enterSegment
    (place : Place)
    (segment : List Char) :
    Place :=
  if segment = [] ∨ segment = ['.'] then place
  else if segment = ['.', '.'] then place.up
  else place.below segment

theorem enterSegment_of_isPlainSegment
    (plain : IsPlainSegment segment)
    (place : Place) :
    place.enterSegment segment = place.below segment := by
  have stays : ¬ (segment = [] ∨ segment = ['.']) :=
    not_or.mpr ⟨plain.nonempty, plain.notCurrent⟩
  have notUp : segment ≠ ['.', '.'] := plain.notUp
  rw [enterSegment, if_neg stays, if_neg notUp]

/-- Where the segments of a path lead, one after the other. -/
def walk
    (place : Place)
    (path : List Char) :
    Place :=
  (path.splitOn '/').foldl enterSegment place

/-- A segment leads where its component does, and nowhere if it has none. -/
theorem enterSegment_eq
    (place : Place)
    (isFirst : Bool)
    (segment : List Char) :
    place.enterSegment segment =
      (segmentComponent? isFirst segment).elim place place.enter := by
  by_cases empty : segment = []
  · simp [enterSegment, segmentComponent?, empty]
  · by_cases current : segment = ['.']
    · cases isFirst <;>
        simp [enterSegment, segmentComponent?, current, enter]
    · by_cases isUp : segment = ['.', '.']
      · simp [enterSegment, segmentComponent?, isUp, enter]
      · simp [enterSegment, segmentComponent?, empty, current, isUp,
          enter]

theorem foldl_enter_segmentParts
    (place : Place)
    (isFirst : Bool)
    (segments : List (List Char)) :
    (segmentParts isFirst segments).foldl enter place =
      segments.foldl enterSegment place := by
  induction segments generalizing place isFirst with
  | nil => rfl
  | cons segment segments ih =>
      rw [segmentParts, List.foldl_append, List.foldl_cons,
        enterSegment_eq place isFirst, ih]
      cases segmentComponent? isFirst segment with
      | none => rfl
      | some component => rfl

/-- The parts of a path are entered one after the other. -/
theorem follow_eq_foldl
    (place : Place)
    (path : List Char) :
    place.follow path = (partsOf path).foldl enter place :=
  rfl

/-- A path is followed segment by segment, from the root if it begins there. -/
theorem follow_eq_walk
    (place : Place)
    (path : List Char) :
    place.follow path =
      (if isAbsolute path then root else place).walk path := by
  rw [follow_eq_foldl, partsOf_eq, List.foldl_append,
    foldl_enter_segmentParts, walk]
  split <;> rfl

theorem walk_append_slash
    (place : Place)
    (first second : List Char) :
    place.walk (first ++ '/' :: second) =
      (place.walk first).walk second := by
  rw [walk, List.splitOn_append_cons_self, List.foldl_append]
  rfl

theorem walk_of_slash_not_mem
    (unbroken : '/' ∉ segment)
    (place : Place) :
    place.walk segment = place.enterSegment segment := by
  rw [walk, List.splitOn_eq_singleton unbroken]
  rfl

theorem follow_of_slash_not_mem
    (unbroken : '/' ∉ segment)
    (place : Place) :
    place.follow segment = place.enterSegment segment := by
  rw [follow_eq_walk, isAbsolute_of_slash_not_mem unbroken,
    if_neg Bool.false_ne_true, walk_of_slash_not_mem unbroken]

/-- A joined path leads where its second part does from where the first leads. -/
theorem follow_join
    (place : Place)
    (base path : List Char) :
    place.follow (join base path) = (place.follow base).follow path := by
  cases absolute : isAbsolute path with
  | true =>
      rw [join_of_isAbsolute absolute, follow_eq_walk, follow_eq_walk,
        absolute, if_pos rfl, if_pos rfl]
  | false =>
      by_cases empty : base = []
      · rw [empty, join_nil]
        rfl
      · rw [follow_eq_foldl, partsOf_join empty absolute,
          List.foldl_append, foldl_enter_segmentParts,
          follow_eq_walk _ path, absolute, if_neg Bool.false_ne_true]
        rfl

/-! ## How far up -/

theorem exists_fewer_of_enter
    {component : Component Char}
    {levels : Nat}
    (entered : (place.enter component).anchor = .above levels) :
    ∃ fewer ≤ levels, place.anchor = .above fewer := by
  cases component with
  | root => cases entered
  | current => exact ⟨levels, Nat.le_refl _, entered⟩
  | name text => exact ⟨levels, Nat.le_refl _, entered⟩
  | up =>
      rw [enter, up] at entered
      split at entered
      · cases anchor : place.anchor with
        | root =>
            rw [anchor] at entered
            cases entered
        | above fewer =>
            rw [anchor] at entered
            cases entered
            exact ⟨fewer, Nat.le_succ _, rfl⟩
      · exact ⟨levels, Nat.le_refl _, entered⟩

/-- No path leads back down to where it would have to know a name. -/
theorem exists_fewer_of_follow
    {levels : Nat}
    (followed : (place.follow path).anchor = .above levels) :
    ∃ fewer ≤ levels, place.anchor = .above fewer := by
  rw [follow] at followed
  generalize (components path).map (·.1) = entered at followed
  induction entered generalizing place with
  | nil => exact ⟨levels, Nat.le_refl _, followed⟩
  | cons component entered ih =>
      rcases ih followed with ⟨more, more_le, anchor⟩
      rcases exists_fewer_of_enter anchor with ⟨fewer, fewer_le, same⟩
      exact ⟨fewer, Nat.le_trans fewer_le more_le, same⟩

/-- A path leads to one level below where it starts if it leads to a directory
there, or stays at the root. -/
theorem up_follow_eq_iff :
    (place.follow path).up = place ↔
      (∃ name, place.follow path = place.below name) ∨
        place = root ∧ place.follow path = root := by
  rw [up_eq_iff]
  refine or_congr_right ⟨?_, ?_⟩
  · rintro ⟨nothing, same⟩
    cases anchor : (place.follow path).anchor with
    | root =>
        have isRoot : place = root := by
          rw [same, anchor]
          rfl
        refine ⟨isRoot, ?_⟩
        rw [root, ← nothing, ← anchor]
    | above levels =>
        rcases exists_fewer_of_follow anchor with ⟨fewer, le, below⟩
        rw [anchor] at same
        rw [same] at below
        cases below
        exact absurd le (Nat.not_succ_le_self levels)
  · rintro ⟨isRoot, stays⟩
    rw [stays]
    exact ⟨rfl, isRoot⟩

end Place

/-! ## The same path -/

theorem SamePath.placeOf_eq
    {first second : List Char}
    (same : SamePath first second) :
    placeOf first = placeOf second := by
  rw [placeOf, placeOf, Place.follow_eq_foldl, Place.follow_eq_foldl,
    same]

end TestScribe.Path

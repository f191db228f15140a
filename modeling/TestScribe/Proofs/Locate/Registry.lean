import Mathlib.Data.List.Nodup
import TestScribe.Locate.Registry
import TestScribe.Proofs.Lookup

/-!
# What a registry answers

A registry is told by the extractor that it holds for each tag.  Registering
gives an extractor to a tag that has none and changes nothing else, so that of
several registrations of a tag the first one counts.  The listed tags are the
registered ones in the strict order of their UTF-8 forms; they depend on which
tags are registered, and not on the order in which that was done.
-/

namespace TestScribe.Locate

namespace Registry

variable
    {registry first second : Registry}
    {tag other : String}
    {extractor : Extractor}

/-! ## Registered extractors -/

/-- The extractor that a tag is registered with. -/
def registered?
    (registry : Registry)
    (tag : String) :
    Option Extractor :=
  registry.entries.lookup tag

/-- No tag is registered twice. -/
def HasDistinctTags
    (registry : Registry) : Prop :=
  (registry.entries.map Prod.fst).Nodup

theorem isRegistered_eq_isSome
    (registry : Registry)
    (tag : String) :
    registry.isRegistered tag = (registry.registered? tag).isSome :=
  rfl

theorem resolve_eq_getD
    (registry : Registry)
    (tag : String) :
    registry.resolve tag =
      (registry.registered? tag).getD registry.fallback :=
  rfl

/-- An association list answers for exactly the tags that stand in it. -/
theorem lookup_isSome_iff_mem
    {entries : List (String × Extractor)} :
    (entries.lookup tag).isSome = true ↔ tag ∈ entries.map Prod.fst := by
  simp only [List.lookup_isSome_iff, List.mem_map, beq_iff_eq]
  constructor
  · rintro ⟨entry, member, same⟩
    exact ⟨entry, member, same.symm⟩
  · rintro ⟨entry, member, same⟩
    exact ⟨entry, member, same.symm⟩

theorem isRegistered_iff_mem :
    registry.isRegistered tag = true ↔
      tag ∈ registry.entries.map Prod.fst :=
  lookup_isSome_iff_mem

/-! ## Registering -/

/-- A registration is made exactly for a tag that has none. -/
theorem register_snd
    (registry : Registry)
    (tag : String)
    (extractor : Extractor) :
    (registry.register tag extractor).2 =
      !registry.isRegistered tag := by
  rw [register]
  split
  · next known => simp [known]
  · next new => simp [new]

/-- What a tag is registered with counts; another registration is only looked at
after it. -/
theorem registered?_register
    (registry : Registry)
    (tag : String)
    (extractor : Extractor)
    (other : String) :
    (registry.register tag extractor).1.registered? other =
      (registry.registered? other).or
        ([(tag, extractor)].lookup other) := by
  rw [register]
  split
  · next known =>
    by_cases same : other = tag
    · subst same
      rw [isRegistered_eq_isSome] at known
      rw [Option.or_of_isSome known]
    · have notSame : (other == tag) = false :=
        beq_eq_false_iff_ne.mpr same
      rw [List.lookup_cons, notSame, List.lookup_nil, Option.or_none]
  · exact List.lookup_append

@[simp]
theorem fallback_register
    (registry : Registry)
    (tag : String)
    (extractor : Extractor) :
    (registry.register tag extractor).1.fallback = registry.fallback := by
  rw [register]
  split <;> rfl

theorem HasDistinctTags.register
    (distinct : registry.HasDistinctTags)
    (tag : String)
    (extractor : Extractor) :
    (registry.register tag extractor).1.HasDistinctTags := by
  rw [Registry.register]
  split
  · exact distinct
  · next new =>
    rw [HasDistinctTags, List.map_append, List.map_singleton]
    refine List.nodup_append.mpr ⟨distinct, List.nodup_singleton tag, ?_⟩
    rintro known isKnown _ isTag rfl
    rw [List.mem_singleton.mp isTag] at isKnown
    exact new (isRegistered_iff_mem.mpr isKnown)

/-- Neither another tag nor a registered one is served otherwise than before. -/
theorem resolve_register_of_ne_or_isRegistered
    (untouched : other ≠ tag ∨ registry.isRegistered other = true)
    (extractor : Extractor) :
    (registry.register tag extractor).1.resolve other =
      registry.resolve other := by
  rw [resolve_eq_getD, resolve_eq_getD, registered?_register,
    fallback_register]
  rcases untouched with different | known
  · have notSame : (other == tag) = false :=
      beq_eq_false_iff_ne.mpr different
    rw [List.lookup_cons, notSame, List.lookup_nil, Option.or_none]
  · rw [isRegistered_eq_isSome] at known
    rw [Option.or_of_isSome known]

/-! ## Several registrations -/

/-- Of what was there and all that is registered, the first counts. -/
theorem registered?_registerAll
    (registry : Registry)
    (entries : List (String × Extractor))
    (tag : String) :
    (registry.registerAll entries).registered? tag =
      (registry.registered? tag).or (entries.lookup tag) := by
  induction entries generalizing registry with
  | nil =>
      rw [List.lookup_nil, Option.or_none]
      rfl
  | cons entry entries ih =>
      have rest := ih (registry.register entry.1 entry.2).1
      rw [registered?_register, Option.or_assoc, ← List.lookup_append]
        at rest
      exact rest

@[simp]
theorem fallback_registerAll
    (registry : Registry)
    (entries : List (String × Extractor)) :
    (registry.registerAll entries).fallback = registry.fallback := by
  induction entries generalizing registry with
  | nil => rfl
  | cons entry entries ih =>
      have rest := ih (registry.register entry.1 entry.2).1
      rw [fallback_register] at rest
      exact rest

theorem HasDistinctTags.registerAll
    (distinct : registry.HasDistinctTags)
    (entries : List (String × Extractor)) :
    (registry.registerAll entries).HasDistinctTags := by
  induction entries generalizing registry with
  | nil => exact distinct
  | cons entry entries ih => exact ih (distinct.register entry.1 entry.2)

theorem hasDistinctTags_empty
    (fallback : Extractor) :
    (Registry.empty fallback).HasDistinctTags :=
  List.nodup_nil

/-! ## The order of the tags -/

/-- The UTF-8 form of the first text stands before that of the second, byte by
byte. -/
def Utf8Before
    (first second : String) : Prop :=
  first.toUTF8.data.toList < second.toUTF8.data.toList

theorem utf8LessOrEqual_iff
    {first second : String} :
    utf8LessOrEqual first second = true ↔
      first.toUTF8.data.toList ≤ second.toUTF8.data.toList := by
  rw [utf8LessOrEqual, decide_eq_true_iff]

/-- A text is told by the bytes of its UTF-8 form. -/
theorem eq_of_utf8_eq
    {first second : String}
    (same :
      first.toUTF8.data.toList = second.toUTF8.data.toList) :
    first = second :=
  String.toByteArray_inj.mp (ByteArray.ext (Array.toList_inj.mp same))

theorem utf8Before_of_ne
    {first second : String}
    (ordered : utf8LessOrEqual first second = true)
    (different : first ≠ second) :
    Utf8Before first second := by
  rw [utf8LessOrEqual_iff] at ordered
  refine List.not_le.mp fun reversed => ?_
  exact different (eq_of_utf8_eq (List.le_antisymm ordered reversed))

theorem utf8Before_asymm
    {first second : String}
    (before : Utf8Before first second) :
    ¬ Utf8Before second first :=
  List.lt_asymm before

theorem perm_tags
    (registry : Registry) :
    registry.tags.Perm (registry.entries.map Prod.fst) :=
  List.mergeSort_perm _ _

theorem mem_tags_iff :
    tag ∈ registry.tags ↔ registry.isRegistered tag = true := by
  rw [registry.perm_tags.mem_iff, isRegistered_iff_mem]

/-- The tags are listed in the strict order of their UTF-8 forms. -/
theorem HasDistinctTags.pairwise_tags
    (distinct : registry.HasDistinctTags) :
    registry.tags.Pairwise Utf8Before := by
  have ordered :
      registry.tags.Pairwise fun first second =>
        utf8LessOrEqual first second = true := by
    apply List.pairwise_mergeSort
    · intro first second third firstSecond secondThird
      rw [utf8LessOrEqual_iff] at firstSecond secondThird ⊢
      exact List.le_trans firstSecond secondThird
    · intro first second
      rw [Bool.or_eq_true, utf8LessOrEqual_iff, utf8LessOrEqual_iff]
      exact List.le_total _ _
  have nodup : registry.tags.Nodup :=
    registry.perm_tags.nodup_iff.mpr distinct
  exact
    List.Pairwise.imp₂ (fun _ _ => utf8Before_of_ne) ordered nodup

/-- Registries that hold the same tags list them alike. -/
theorem HasDistinctTags.tags_eq
    (firstDistinct : first.HasDistinctTags)
    (secondDistinct : second.HasDistinctTags)
    (same :
      ∀ tag, first.isRegistered tag = second.isRegistered tag) :
    first.tags = second.tags := by
  have firstNodup : first.tags.Nodup :=
    first.perm_tags.nodup_iff.mpr firstDistinct
  have secondNodup : second.tags.Nodup :=
    second.perm_tags.nodup_iff.mpr secondDistinct
  have rearranged : first.tags.Perm second.tags := by
    rw [List.perm_ext_iff_of_nodup firstNodup secondNodup]
    intro tag
    rw [mem_tags_iff, mem_tags_iff, same]
  refine
    rearranged.eq_of_pairwise ?_ firstDistinct.pairwise_tags
      secondDistinct.pairwise_tags
  intro left right _ _ leftRight rightLeft
  exact absurd rightLeft (utf8Before_asymm leftRight)

/-! ## Registries that answer alike -/

/-- The two registries give the same answer to every question. -/
structure AnswersLike
    (first second : Registry) : Prop where
  resolve : ∀ tag, first.resolve tag = second.resolve tag
  isRegistered :
    ∀ tag, first.isRegistered tag = second.isRegistered tag
  tags : first.tags = second.tags
  register :
    ∀ tag extractor,
      (first.register tag extractor).2 =
        (second.register tag extractor).2
  extract :
    ∀ source cursor language,
      first.extract source cursor language =
        second.extract source cursor language
  display : first.display = second.display
  displayLines : first.displayLines = second.displayLines

-- `delta`, since the equation of a definition with long texts is slow to make.

theorem display_eq_of_tags_eq
    (tags : first.tags = second.tags)
    (fallback : first.fallback = second.fallback) :
    first.display = second.display := by
  delta Registry.display
  rw [tags, fallback]

theorem displayLines_eq_of_tags_eq
    (tags : first.tags = second.tags)
    (fallback : first.fallback = second.fallback) :
    first.displayLines = second.displayLines := by
  delta Registry.displayLines
  simp only
  rw [tags, fallback]

/-- Registries answer alike when they hold the same extractors and send other
tags to the same one. -/
theorem HasDistinctTags.answersLike
    (firstDistinct : first.HasDistinctTags)
    (secondDistinct : second.HasDistinctTags)
    (sameRegistered :
      ∀ tag, first.registered? tag = second.registered? tag)
    (sameFallback : first.fallback = second.fallback) :
    first.AnswersLike second := by
  have resolve : ∀ tag, first.resolve tag = second.resolve tag := by
    intro tag
    rw [resolve_eq_getD, resolve_eq_getD, sameRegistered, sameFallback]
  have isRegistered :
      ∀ tag, first.isRegistered tag = second.isRegistered tag := by
    intro tag
    rw [isRegistered_eq_isSome, isRegistered_eq_isSome, sameRegistered]
  have tags : first.tags = second.tags :=
    firstDistinct.tags_eq secondDistinct isRegistered
  exact
    { resolve := resolve
      isRegistered := isRegistered
      tags := tags
      register := fun tag extractor => by
        rw [register_snd, register_snd, isRegistered]
      extract := fun source cursor language => by
        rw [Registry.extract, Registry.extract, resolve]
      display := display_eq_of_tags_eq tags sameFallback
      displayLines := displayLines_eq_of_tags_eq tags sameFallback }

/-- Registering distinct tags in another order gives a registry that answers
alike, also after any further registrations. -/
theorem HasDistinctTags.registerAll_perm
    (distinct : registry.HasDistinctTags)
    {entries rearranged : List (String × Extractor)}
    (perm : entries.Perm rearranged)
    (distinctEntries : (entries.map Prod.fst).Nodup)
    (later : List (String × Extractor)) :
    ((registry.registerAll entries).registerAll later).AnswersLike
      ((registry.registerAll rearranged).registerAll later) := by
  apply HasDistinctTags.answersLike
  · exact (distinct.registerAll entries).registerAll later
  · exact (distinct.registerAll rearranged).registerAll later
  · intro tag
    have once := List.nodup_iff_count_le_one.mp distinctEntries tag
    rw [registered?_registerAll, registered?_registerAll,
      registered?_registerAll, registered?_registerAll,
      lookup_eq_of_perm perm once]
  · rw [fallback_registerAll, fallback_registerAll,
      fallback_registerAll, fallback_registerAll]

end Registry

end TestScribe.Locate

import Mathlib.Logic.Function.Basic
import TestScribe.Proofs.Locate.Registry

/-!
# Registries over a run

Registries are kept at several places, where they are made, added to and copied
from one place to another.  A run of such operations is told by histories: for
each place the registrations that were tried on its registry, those included
that were tried before it was copied there.  A history does not look at what
became of the registrations, and yet it decides every answer of its registry:
each step keeps the two in line, and so does each run.
-/

namespace TestScribe.Locate

/-! ## Runs -/

/-- How a registry begins. -/
inductive RegistryStart where
  /-- Without registered tags. -/
  | empty (fallback : Extractor)
  /-- With the tags that are known from the start. -/
  | builtin

/-- The registry at its beginning. -/
def RegistryStart.registry : RegistryStart → Registry
  | .empty fallback => .empty fallback
  | .builtin => .builtin

/-- What can be done with registries that are kept at several places. -/
inductive RegistryOperation (Place : Type) where
  /-- Begin a registry. -/
  | begin (place : Place) (start : RegistryStart)
  /-- Try to register an extractor for a tag. -/
  | register (place : Place) (tag : String) (extractor : Extractor)
  /-- Put a copy of one registry in the place of another. -/
  | copy (source target : Place)

/-- The registrations that were tried on a registry, oldest first, and the
extractor that it began with for all other tags. -/
structure RegistryHistory where
  tried : List (String × Extractor)
  fallback : Extractor

/-- The tags that were tried. -/
def RegistryHistory.tags
    (history : RegistryHistory) :
    List String :=
  history.tried.map Prod.fst

/-- What was tried on a registry at its beginning. -/
def RegistryStart.history : RegistryStart → RegistryHistory
  | .empty fallback => ⟨[], fallback⟩
  | .builtin =>
      ⟨[("typescript", Strategy.curlyFunction),
          ("javascript", Strategy.curlyFunction),
          ("python", Strategy.indentation),
          ("java", Strategy.accessModifier)],
        Strategy.curlyFunction⟩

section Run

variable
    {Place : Type}

/-- The only place that an operation changes. -/
def RegistryOperation.target : RegistryOperation Place → Place
  | .begin place _ => place
  | .register place _ _ => place
  | .copy _ target => target

variable
    [DecidableEq Place]

/-- The registries after an operation. -/
def RegistryOperation.apply
    (registries : Place → Registry) :
    RegistryOperation Place → Place → Registry
  | .begin place start =>
      Function.update registries place start.registry
  | .register place tag extractor =>
      Function.update registries place
        ((registries place).register tag extractor).1
  | .copy source target =>
      Function.update registries target (registries source)

/-- The histories after an operation. -/
def RegistryOperation.record
    (histories : Place → RegistryHistory) :
    RegistryOperation Place → Place → RegistryHistory
  | .begin place start =>
      Function.update histories place start.history
  | .register place tag extractor =>
      Function.update histories place
        { histories place with
          tried := (histories place).tried ++ [(tag, extractor)] }
  | .copy source target =>
      Function.update histories target (histories source)

/-- The registries after a run that begins with the same one at every place. -/
def registriesAfter
    (start : RegistryStart)
    (operations : List (RegistryOperation Place)) :
    Place → Registry :=
  operations.foldl RegistryOperation.apply fun _ => start.registry

/-- The histories after a run. -/
def historiesAfter
    (start : RegistryStart)
    (operations : List (RegistryOperation Place)) :
    Place → RegistryHistory :=
  operations.foldl RegistryOperation.record fun _ => start.history

/-! ## Registries keep to their histories -/

/-- The registry holds the first of the registrations of each tag. -/
structure Registry.Follows
    (registry : Registry)
    (history : RegistryHistory) : Prop where
  distinct : registry.HasDistinctTags
  registered :
    ∀ tag, registry.registered? tag = history.tried.lookup tag
  fallback : registry.fallback = history.fallback

theorem RegistryStart.follows
    (start : RegistryStart) :
    start.registry.Follows start.history := by
  cases start with
  | empty fallback =>
      exact ⟨Registry.hasDistinctTags_empty fallback, fun _ => rfl, rfl⟩
  | builtin =>
      refine ⟨?_, fun _ => rfl, rfl⟩
      exact (Registry.hasDistinctTags_empty _).registerAll _

theorem Registry.Follows.register
    {registry : Registry}
    {history : RegistryHistory}
    (follows : registry.Follows history)
    (tag : String)
    (extractor : Extractor) :
    (registry.register tag extractor).1.Follows
      { history with tried := history.tried ++ [(tag, extractor)] } where
  distinct := follows.distinct.register tag extractor
  registered := fun other => by
    rw [Registry.registered?_register, follows.registered,
      List.lookup_append]
  fallback := by
    rw [Registry.fallback_register, follows.fallback]

/-- An operation keeps every registry in line with its history. -/
theorem RegistryOperation.apply_follows
    {registries : Place → Registry}
    {histories : Place → RegistryHistory}
    (follow : ∀ place, (registries place).Follows (histories place))
    (operation : RegistryOperation Place)
    (place : Place) :
    (operation.apply registries place).Follows
      (operation.record histories place) := by
  cases operation with
  | begin changed start =>
      rw [apply, record, Function.update_apply, Function.update_apply]
      split
      · exact start.follows
      · exact follow place
  | register changed tag extractor =>
      rw [apply, record, Function.update_apply, Function.update_apply]
      split
      · exact (follow changed).register tag extractor
      · exact follow place
  | copy source target =>
      rw [apply, record, Function.update_apply, Function.update_apply]
      split
      · exact follow source
      · exact follow place

/-- After every run each registry is in line with its history. -/
theorem registriesAfter_follows
    (start : RegistryStart)
    (operations : List (RegistryOperation Place))
    (place : Place) :
    (registriesAfter start operations place).Follows
      (historiesAfter start operations place) := by
  have fromAnywhere :
      ∀ (registries : Place → Registry)
        (histories : Place → RegistryHistory),
        (∀ place, (registries place).Follows (histories place)) →
          (operations.foldl RegistryOperation.apply registries
              place).Follows
            (operations.foldl RegistryOperation.record histories
              place) := by
    induction operations with
    | nil => exact fun _ _ follow => follow place
    | cons operation operations ih =>
        intro registries histories follow
        exact ih _ _ (operation.apply_follows follow)
  exact fromAnywhere _ _ fun _ => start.follows

/-! ## Places are kept apart -/

theorem RegistryOperation.apply_of_ne
    {operation : RegistryOperation Place}
    {place : Place}
    (elsewhere : operation.target ≠ place)
    (registries : Place → Registry) :
    operation.apply registries place = registries place := by
  cases operation <;>
    exact Function.update_of_ne elsewhere.symm _ _

/-- Operations on other places leave a registry as it is. -/
theorem registriesAfter_append_of_ne
    (start : RegistryStart)
    (operations later : List (RegistryOperation Place))
    {place : Place}
    (elsewhere : ∀ operation ∈ later, operation.target ≠ place) :
    registriesAfter start (operations ++ later) place =
      registriesAfter start operations place := by
  have fromAnywhere :
      ∀ registries : Place → Registry,
        later.foldl RegistryOperation.apply registries place =
          registries place := by
    induction later with
    | nil => exact fun _ => rfl
    | cons operation later ih =>
        intro registries
        have here := elsewhere operation List.mem_cons_self
        rw [List.foldl_cons, ih, RegistryOperation.apply_of_ne here]
        exact fun other member =>
          elsewhere other (List.mem_cons_of_mem _ member)
  rw [registriesAfter, List.foldl_append, fromAnywhere]
  rfl

theorem registriesAfter_copy
    (start : RegistryStart)
    (operations : List (RegistryOperation Place))
    (source target : Place) :
    registriesAfter start (operations ++ [.copy source target]) target =
      registriesAfter start operations source := by
  rw [registriesAfter, List.foldl_append]
  exact Function.update_self _ _ _

end Run

/-! ## What a history decides -/

/-- A strategy copies the language tag, and depends on it in nothing else. -/
theorem Strategy.extract_eq_map
    (strategy : Strategy)
    (source : String)
    (cursor : Nat)
    (language other : String) :
    strategy.extract source cursor language =
      (strategy.extract source cursor other).map fun record =>
        { record with language := language } := by
  simp only [Strategy.extract, Option.map_bind, Candidate.record?,
    Function.comp_def, Option.map_map]

/-- All answers of a registry, as its history decides them. -/
structure Registry.AnswersFor
    (registry : Registry)
    (history : RegistryHistory) : Prop where
  /-- A registration is made exactly when none was tried for its tag. -/
  register_iff :
    ∀ tag extractor,
      (registry.register tag extractor).2 = true ↔ tag ∉ history.tags
  /-- It changes nothing for other tags and for registered ones. -/
  resolve_register :
    ∀ tag extractor other,
      other ≠ tag ∨ registry.isRegistered other = true →
        (registry.register tag extractor).1.resolve other =
          registry.resolve other
  /-- A tag is served by the extractor of its first registration. -/
  resolve_first :
    ∀ before tag extractor after,
      history.tried = before ++ (tag, extractor) :: after →
        tag ∉ before.map Prod.fst →
          registry.resolve tag = extractor
  /-- A tag that was never tried is served by the fallback. -/
  resolve_fallback :
    ∀ tag, tag ∉ history.tags →
      registry.resolve tag = history.fallback
  isRegistered_iff :
    ∀ tag, registry.isRegistered tag = true ↔ tag ∈ history.tags
  tags_increasing : registry.tags.Pairwise Registry.Utf8Before
  mem_tags :
    ∀ tag, tag ∈ registry.tags ↔ registry.isRegistered tag = true
  /-- Locating is left to the extractor, which is given the tag. -/
  extract_eq :
    ∀ source cursor tag,
      registry.extract source cursor tag =
        (registry.resolve tag).extract source cursor tag
  /-- A strategy copies the tag into its record. -/
  extract_strategy :
    ∀ tag (strategy : Strategy),
      registry.resolve tag = strategy.extractor →
        ∀ source cursor other,
          registry.extract source cursor tag =
            (strategy.extract source cursor other).map fun record =>
              { record with language := tag }
  /-- Distinct tags may be registered in any order. -/
  registerAll_perm :
    ∀ entries rearranged later : List (String × Extractor),
      entries.Perm rearranged →
        (entries.map Prod.fst).Nodup →
          ((registry.registerAll entries).registerAll
              later).AnswersLike
            ((registry.registerAll rearranged).registerAll later)

namespace Registry.Follows

variable
    {registry : Registry}
    {history : RegistryHistory}

theorem isRegistered_iff
    (follows : registry.Follows history)
    (tag : String) :
    registry.isRegistered tag = true ↔ tag ∈ history.tags := by
  rw [Registry.isRegistered_eq_isSome, follows.registered,
    Registry.lookup_isSome_iff_mem, RegistryHistory.tags]

theorem resolve_first
    (follows : registry.Follows history)
    {before after : List (String × Extractor)}
    {tag : String}
    {extractor : Extractor}
    (split : history.tried = before ++ (tag, extractor) :: after)
    (isFirst : tag ∉ before.map Prod.fst) :
    registry.resolve tag = extractor := by
  have found : history.tried.lookup tag = some extractor := by
    refine List.lookup_eq_some_iff.mpr ⟨before, after, split, ?_⟩
    intro entry member
    rw [bne_iff_ne]
    rintro rfl
    exact isFirst (List.mem_map_of_mem member)
  rw [Registry.resolve_eq_getD, follows.registered, found,
    Option.getD_some]

theorem resolve_fallback
    (follows : registry.Follows history)
    {tag : String}
    (untried : tag ∉ history.tags) :
    registry.resolve tag = history.fallback := by
  rw [← follows.isRegistered_iff, Registry.isRegistered_eq_isSome,
    Option.not_isSome_iff_eq_none] at untried
  rw [Registry.resolve_eq_getD, untried, Option.getD_none,
    follows.fallback]

/-- A registry that is in line with its history answers as it decides. -/
theorem answersFor
    (follows : registry.Follows history) :
    registry.AnswersFor history where
  register_iff := by
    intro tag extractor
    rw [Registry.register_snd, ← follows.isRegistered_iff,
      Bool.not_eq_true', Bool.not_eq_true]
  resolve_register := by
    intro tag extractor other untouched
    exact
      Registry.resolve_register_of_ne_or_isRegistered untouched extractor
  resolve_first := by
    intro before tag extractor after split isFirst
    exact follows.resolve_first split isFirst
  resolve_fallback := fun _ untried => follows.resolve_fallback untried
  isRegistered_iff := follows.isRegistered_iff
  tags_increasing := follows.distinct.pairwise_tags
  mem_tags := fun _ => Registry.mem_tags_iff
  extract_eq := fun _ _ _ => rfl
  extract_strategy := by
    intro tag strategy serves source cursor other
    rw [Registry.extract, serves]
    exact strategy.extract_eq_map source cursor tag other
  registerAll_perm := by
    intro entries rearranged later perm distinct
    exact follows.distinct.registerAll_perm perm distinct later

end Registry.Follows

/-! ## Every run -/

/--
After every run each registry gives the answers that its own history decides:
the first registration of a tag counts, later ones change nothing, and the tags
are listed in strict order.  Operations on other places leave a registry as it
is, so that a copy and what it was copied from do not affect each other.
-/
theorem registriesAfter_append_only
    {Place : Type}
    [DecidableEq Place]
    (start : RegistryStart)
    (operations : List (RegistryOperation Place)) :
    (∀ place,
      (registriesAfter start operations place).AnswersFor
        (historiesAfter start operations place)) ∧
      (∀ source target,
        registriesAfter start (operations ++ [.copy source target])
            target =
          registriesAfter start operations source) ∧
        ∀ later place,
          (∀ operation ∈ later, operation.target ≠ place) →
            registriesAfter start (operations ++ later) place =
              registriesAfter start operations place := by
  refine ⟨?_, ?_, ?_⟩
  · intro place
    exact (registriesAfter_follows start operations place).answersFor
  · exact registriesAfter_copy start operations
  · intro later place elsewhere
    exact registriesAfter_append_of_ne start operations later elsewhere

/-- A tag is registered, the registry is saved, and then the tag is registered
again and another one for the first time. -/
theorem registriesAfter_append_only_saved :
    let extractor : Extractor := ⟨"nowhere", fun _ _ _ => none⟩
    let before : List (RegistryOperation Bool) :=
      [.register true "kotlin" extractor, .copy true false]
    let later : List (RegistryOperation Bool) :=
      [.register true "kotlin" Strategy.indentation,
        .register true "go" extractor]
    (registriesAfter .builtin (before ++ later) true).resolve "kotlin" =
        extractor ∧
      (registriesAfter .builtin (before ++ later) true).isRegistered
          "go" = true ∧
        registriesAfter .builtin (before ++ later) false =
          registriesAfter .builtin before false ∧
          ((registriesAfter .builtin (before ++ later) false).register
              "go" extractor).2 = true := by
  intro extractor before later
  have run :=
    registriesAfter_append_only RegistryStart.builtin (before ++ later)
  have saved :=
    (registriesAfter_append_only RegistryStart.builtin before).2.2 later
      false (by decide)
  refine ⟨?_, ?_, saved, ?_⟩
  · exact
      (run.1 true).resolve_first RegistryStart.builtin.history.tried
        "kotlin" extractor _ rfl (by decide)
  · exact ((run.1 true).isRegistered_iff "go").mpr (by decide)
  · exact ((run.1 false).register_iff "go" extractor).mpr (by decide)

end TestScribe.Locate

import TestScribe.Json.Value
import TestScribe.Proofs.Lookup

/-!
# Fields of JSON values

A field of an object is the value of the only member with its name.  Texts that
are put into an array come out of it again.
-/

namespace TestScribe.Json

/-- What a reader gets back from every member it gets back from the list. -/
theorem mapM_map_of_inverse
    {α β : Type}
    {write : α → β}
    {read? : β → Option α}
    (inverse : ∀ item, read? (write item) = some item)
    (items : List α) :
    (items.map write).mapM read? = some items := by
  induction items with
  | nil => rfl
  | cons item items ih =>
      rw [List.map_cons, List.mapM_cons, inverse, ih]
      rfl

theorem Value.string?_eq_some_iff
    {value : Value}
    {text : String} :
    value.string? = some text ↔ value = .ofString text := by
  constructor
  · intro read
    cases value with
    | text literal => exact congrArg Value.text read
    | null => exact nomatch read
    | boolean value => exact nomatch read
    | number spelling => exact nomatch read
    | array items => exact nomatch read
    | object members => exact nomatch read
  · rintro rfl
    rfl

theorem Value.strings?_ofStrings
    (texts : List String) :
    (Value.ofStrings texts).strings? = some texts := by
  have inverse : ∀ text, (Value.ofString text).string? = some text :=
    fun _ => rfl
  exact mapM_map_of_inverse inverse texts

/-- The fields of an object whose names are texts, where no field is repeated. -/
theorem Value.fields?_object
    {names : List String}
    {members : List (Literal × Value)}
    (named : ∀ member ∈ members, member.1.isSome = true)
    (once :
      ∀ name ∈ names, (members.map Prod.fst).count (some name) ≤ 1) :
    (Value.object members).fields? names =
      some (names.map fun name => members.lookup (some name)) := by
  rw [fields?, if_pos (List.all_eq_true.mpr named)]
  induction names with
  | nil => rfl
  | cons name names ih =>
      have others :=
        ih fun other member => once other (List.mem_cons_of_mem _ member)
      rw [List.mapM_cons, others,
        filter_key_of_count_le_one (once name List.mem_cons_self),
        List.map_cons]
      cases members.lookup (some name) <;> rfl

theorem mapM_eq_none_of_mem
    {α β : Type}
    {read? : α → Option β}
    {items : List α}
    {item : α}
    (member : item ∈ items)
    (fails : read? item = none) :
    items.mapM read? = none := by
  induction items with
  | nil => exact nomatch member
  | cons first items ih =>
      rw [List.mapM_cons]
      rcases List.mem_cons.mp member with rfl | inRest
      · rw [fails]
        rfl
      · rw [ih inRest]
        cases read? first <;> rfl

/-- A repeated field makes a record unreadable. -/
theorem Value.fields?_object_of_repeated
    {names : List String}
    {members : List (Literal × Value)}
    {name : String}
    (isField : name ∈ names)
    (repeated : 1 < (members.map Prod.fst).count (some name)) :
    (Value.object members).fields? names = none := by
  rw [fields?]
  split
  · apply mapM_eq_none_of_mem isField
    have several :
        (members.filter (·.1 == some name)).length =
          (members.map Prod.fst).count (some name) := by
      rw [List.count, List.countP_map, List.countP_eq_length_filter]
      rfl
    split
    · next nothing =>
      rw [nothing, List.length_nil] at several
      omega
    · next found =>
      rw [found, List.length_singleton] at several
      omega
    · rfl
  · rfl

/-- The fields of an object can be read exactly when its names are texts and no
field is repeated. -/
theorem Value.fields?_object_eq_some_iff
    {names : List String}
    {members : List (Literal × Value)}
    {fields : List (Option Value)} :
    (Value.object members).fields? names = some fields ↔
      (∀ member ∈ members, member.1.isSome = true) ∧
        (∀ name ∈ names, (members.map Prod.fst).count (some name) ≤ 1) ∧
          fields = names.map fun name => members.lookup (some name) := by
  constructor
  · intro read
    have named : ∀ member ∈ members, member.1.isSome = true := by
      rw [fields?, Option.ite_none_right_eq_some] at read
      exact List.all_eq_true.mp read.1
    have once :
        ∀ name ∈ names, (members.map Prod.fst).count (some name) ≤ 1 := by
      intro name isField
      refine Nat.le_of_not_lt fun repeated => ?_
      rw [fields?_object_of_repeated isField repeated] at read
      exact nomatch read
    rw [fields?_object named once, Option.some.injEq] at read
    exact ⟨named, once, read.symm⟩
  · rintro ⟨named, once, rfl⟩
    exact fields?_object named once

end TestScribe.Json

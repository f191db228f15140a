import Mathlib.Data.List.Nodup

/-!
# Entries found by their keys

A list of entries gives for a key the value of the first entry with it.  Where the
key stands in one entry at most, that entry is all there is for the key, and the
order of the entries does not matter.
-/

namespace TestScribe

variable
    {κ β : Type}
    [BEq κ]
    [LawfulBEq κ]
    {entries rearranged : List (κ × β)}
    {key : κ}
    {value : β}

/-- An entry that is the only one with its key is found. -/
theorem lookup_eq_some_of_mem
    (present : (key, value) ∈ entries)
    (only : ∀ other, (key, other) ∈ entries → other = value) :
    entries.lookup key = some value := by
  cases found : entries.lookup key with
  | none =>
      have absent := List.lookup_eq_none_iff.mp found _ present
      exact absurd rfl (bne_iff_ne.mp absent)
  | some other =>
      rcases List.lookup_eq_some_iff.mp found with
        ⟨front, back, whole, -⟩
      have member : (key, other) ∈ entries := by
        rw [whole]
        exact List.mem_append_right _ List.mem_cons_self
      rw [only other member]

/-- The entries with a key that is there at most once. -/
theorem filter_key_of_count_le_one
    (once : (entries.map Prod.fst).count key ≤ 1) :
    entries.filter (·.1 == key) =
      (entries.lookup key).elim [] fun value => [(key, value)] := by
  induction entries with
  | nil => rfl
  | cons entry entries ih =>
      rcases entry with ⟨other, value⟩
      rw [List.map_cons] at once
      by_cases same : key = other
      · subst same
        rw [List.count_cons_self] at once
        have noMore : (entries.map Prod.fst).count key = 0 := by
          omega
        have absent : key ∉ entries.map Prod.fst :=
          List.count_eq_zero.mp noMore
        have nothing : entries.filter (·.1 == key) = [] := by
          rw [List.filter_eq_nil_iff]
          intro entry member isKey
          exact
            absent (List.mem_map.mpr ⟨entry, member, beq_iff_eq.mp isKey⟩)
        simp [nothing]
      · rw [List.count_cons_of_ne (Ne.symm same)] at once
        have differs : (key == other) = false :=
          beq_eq_false_iff_ne.mpr same
        have differsToo : ¬ (other == key) = true :=
          fun equal => same (beq_iff_eq.mp equal).symm
        rw [List.filter_cons, if_neg differsToo, List.lookup_cons, differs]
        exact ih once

/-- For a key that is there at most once the order of the entries does not
matter. -/
theorem lookup_eq_of_perm
    (perm : entries.Perm rearranged)
    (once : (entries.map Prod.fst).count key ≤ 1) :
    entries.lookup key = rearranged.lookup key := by
  have onceToo : (rearranged.map Prod.fst).count key ≤ 1 := by
    rwa [← (perm.map Prod.fst).count_eq]
  have filtered := perm.filter (·.1 == key)
  rw [filter_key_of_count_le_one once,
    filter_key_of_count_le_one onceToo] at filtered
  cases found : entries.lookup key with
  | none =>
      cases foundToo : rearranged.lookup key with
      | none => rfl
      | some other =>
          rw [found, foundToo] at filtered
          exact absurd filtered.length_eq Nat.zero_ne_one
  | some value =>
      cases foundToo : rearranged.lookup key with
      | none =>
          rw [found, foundToo] at filtered
          exact absurd filtered.length_eq Nat.one_ne_zero
      | some other =>
          rw [found, foundToo] at filtered
          have same : (key, value) = (key, other) :=
            List.singleton_perm_singleton.mp filtered
          rw [(Prod.mk.inj same).2]

end TestScribe

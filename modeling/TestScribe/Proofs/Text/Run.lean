/-!
# Runs and what follows them

A run is the longest front of a list whose members all satisfy a test.  It is
told by its members and by the member after it, which fails the test.
-/

namespace TestScribe.Text

variable
    {α : Type}
    {test : α → Bool}
    {run rest : List α}

/-- What holds of the first member holds of every first member. -/
theorem forall_mem_head?_cons
    {property : α → Prop}
    {first : α}
    (holds : property first)
    (rest : List α) :
    ∀ member ∈ (first :: rest).head?, property member := by
  intro member isFirst
  rwa [← Option.some.inj isFirst]

/-- What holds of every member of a run that is not empty holds of the first member
of what begins with it. -/
theorem forall_mem_head?_append
    {property : α → Prop}
    (nonempty : run ≠ [])
    (holds : ∀ member ∈ run, property member)
    (rest : List α) :
    ∀ member ∈ (run ++ rest).head?, property member := by
  rcases List.exists_cons_of_ne_nil nonempty with ⟨first, others, rfl⟩
  exact
    forall_mem_head?_cons (holds first List.mem_cons_self) (others ++ rest)

/-- A run is what is taken up to a member that fails the test. -/
theorem takeWhile_append_of_boundary
    (inside : ∀ member ∈ run, test member = true)
    (boundary : ∀ member ∈ rest.head?, test member = false) :
    (run ++ rest).takeWhile test = run := by
  rw [List.takeWhile_append_of_pos inside]
  cases rest with
  | nil => simp
  | cons first rest => simp [boundary first rfl]

/-- What follows a run is what is left when the run is dropped. -/
theorem dropWhile_append_of_boundary
    (inside : ∀ member ∈ run, test member = true)
    (boundary : ∀ member ∈ rest.head?, test member = false) :
    (run ++ rest).dropWhile test = rest := by
  rw [List.dropWhile_append_of_pos inside]
  cases rest with
  | nil => rfl
  | cons first rest => simp [boundary first rfl]

/-- A member that passes the test lengthens the run if it is put into it or right
behind it, and no run that ends before. -/
theorem length_takeWhile_insertIdx
    {list : List α}
    {inserted : α}
    {index : Nat}
    (passes : test inserted = true)
    (there : index ≤ list.length) :
    ((list.insertIdx index inserted).takeWhile test).length =
      if index ≤ (list.takeWhile test).length then
        (list.takeWhile test).length + 1
      else
        (list.takeWhile test).length := by
  induction list generalizing index with
  | nil =>
      rw [Nat.le_zero.mp there, List.insertIdx_zero,
        List.takeWhile_cons_of_pos passes]
      rfl
  | cons first list ih =>
      cases index with
      | zero =>
          rw [List.insertIdx_zero, List.takeWhile_cons_of_pos passes,
            if_pos (Nat.zero_le _), List.length_cons]
      | succ index =>
          rw [List.insertIdx_succ_cons]
          cases firstPasses : test first with
          | false => simp [firstPasses]
          | true =>
              have later := ih (Nat.le_of_succ_le_succ there)
              rw [List.takeWhile_cons_of_pos firstPasses,
                List.takeWhile_cons_of_pos firstPasses,
                List.length_cons, List.length_cons, later]
              simp only [Nat.add_le_add_iff_right]
              split <;> rfl

/-- The member after a run stops it. -/
theorem eq_takeWhile_append_cons
    {list : List α}
    {stop : α}
    (dropped : list.dropWhile test = stop :: rest) :
    list = list.takeWhile test ++ stop :: rest ∧ test stop = false := by
  have stops := List.head?_dropWhile_not test list
  rw [dropped] at stops
  constructor
  · rw [← dropped, List.takeWhile_append_dropWhile]
  · exact stops

/-! ## Two members of one list -/

/-- Of two members of a list, one stands before the other, or both are the same
one. -/
theorem append_cons_eq_append_cons
    {first second rest after : List α}
    {member other : α}
    (same : first ++ member :: rest = second ++ other :: after) :
    (first = second ∧ member = other ∧ rest = after) ∨
      (∃ between,
        second = first ++ member :: between ∧
          rest = between ++ other :: after) ∨
        ∃ between,
          first = second ++ other :: between ∧
            after = between ++ member :: rest := by
  rcases List.append_eq_append_iff.mp same with
    ⟨further, secondEq, restEq⟩ | ⟨further, firstEq, afterEq⟩
  · cases further with
    | nil =>
        rw [List.append_nil] at secondEq
        rw [List.nil_append, List.cons.injEq] at restEq
        exact .inl ⟨secondEq.symm, restEq⟩
    | cons character between =>
        rw [List.cons_append, List.cons.injEq] at restEq
        rcases restEq with ⟨rfl, restEq⟩
        exact .inr (.inl ⟨between, secondEq, restEq⟩)
  · cases further with
    | nil =>
        rw [List.append_nil] at firstEq
        rw [List.nil_append, List.cons.injEq] at afterEq
        exact .inl ⟨firstEq, afterEq.1.symm, afterEq.2.symm⟩
    | cons character between =>
        rw [List.cons_append, List.cons.injEq] at afterEq
        rcases afterEq with ⟨rfl, afterEq⟩
        exact .inr (.inr ⟨between, firstEq, afterEq⟩)

/-- What stands on either side of the last member of its kind is determined. -/
theorem eq_of_append_cons_of_not_mem_right
    {member : α}
    {first second rest after : List α}
    (notInRest : member ∉ rest)
    (notInAfter : member ∉ after)
    (same : first ++ member :: rest = second ++ member :: after) :
    first = second ∧ rest = after := by
  rcases append_cons_eq_append_cons same with
    ⟨firstEq, -, restEq⟩ | ⟨between, -, rfl⟩ | ⟨between, -, rfl⟩
  · exact ⟨firstEq, restEq⟩
  · exact absurd List.mem_append_cons_self notInRest
  · exact absurd List.mem_append_cons_self notInAfter

end TestScribe.Text

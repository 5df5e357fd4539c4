import ConstraintTree.Registry.Builtin

/-!
# What a registry answers

A registry is asked for the function of a name, and it is nothing but its
answers: two registries that give the same ones are equal (`ext`). So each way
to make a registry is known by one equation on `get?`. Registering and laying
over both let the newer entry win, which is the `or` of the two answers with
the newer one in front. So after many writes the last one is the answer, and
laying over is a monoid in which each element is its own square.
-/

namespace ConstraintTree

/-- If each write puts something in place of what is in view or leaves it, then
after many of them the last one that has put something is in view. -/
theorem foldl_lastWrite {σ α β : Type} (view : σ → Option β) {apply : σ → α → σ}
    {write? : α → Option β} (happly : ∀ s a, view (apply s a) = (write? a).or (view s))
    (writes : List α) (s : σ) :
    view (writes.foldl apply s) = ((writes.filterMap write?).getLast?).or (view s) := by
  induction writes generalizing s with
  | nil => rfl
  | cons a writes ih =>
      rw [List.foldl_cons, ih, happly]
      cases hw : write? a with
      | none => rw [List.filterMap_cons_none hw, Option.none_or]
      | some b =>
          rw [List.filterMap_cons_some hw, List.getLast?_cons, Option.some_or]
          cases (writes.filterMap write?).getLast? <;> rfl

namespace Registry

theorem ext {r s : Registry} (h : ∀ name, r.get? name = s.get? name) : r = s := by
  obtain ⟨f⟩ := r
  obtain ⟨g⟩ := s
  exact congrArg Registry.mk (Std.ExtTreeMap.ext_getElem? h)

theorem contains_eq (r : Registry) (name : String) :
    r.contains name = (r.get? name).isSome :=
  Std.ExtTreeMap.contains_eq_isSome_getElem?

@[simp] theorem get?_empty (name : String) : empty.get? name = none :=
  Std.ExtTreeMap.getElem?_empty

theorem get?_register (r : Registry) (key : String) (f : Function) (name : String) :
    (r.register key f).get? name = if key = name then some f else r.get? name := by
  rw [get?, register, Std.ExtTreeMap.getElem?_insert]
  simp only [Std.LawfulEqOrd.compare_eq_iff_eq]
  rfl

theorem get?_merge (r overrides : Registry) (name : String) :
    (r.merge overrides).get? name = (overrides.get? name).or (r.get? name) :=
  Std.ExtTreeMap.getElem?_union

theorem merge_assoc (r s t : Registry) : (r.merge s).merge t = r.merge (s.merge t) :=
  ext fun name => by simp only [get?_merge, Option.or_assoc]

@[simp] theorem empty_merge (r : Registry) : empty.merge r = r :=
  ext fun name => by rw [get?_merge, get?_empty, Option.or_none]

@[simp] theorem merge_empty (r : Registry) : r.merge empty = r :=
  ext fun name => by rw [get?_merge, get?_empty, Option.none_or]

@[simp] theorem merge_self (r : Registry) : r.merge r = r :=
  ext fun name => by rw [get?_merge, Option.or_self]

theorem contains_merge (r overrides : Registry) (name : String) :
    (r.merge overrides).contains name = (r.contains name || overrides.contains name) :=
  Std.ExtTreeMap.contains_union

theorem get?_merge_register (r caller : Registry) (f : Function) {name other : String}
    (h : other ≠ name) :
    (r.merge (caller.register name f)).get? other = (r.merge caller).get? other := by
  rw [get?_merge, get?_merge, get?_register, if_neg h.symm]

/-! ## The names -/

theorem mem_names_iff {r : Registry} {name : String} :
    name ∈ r.names ↔ r.contains name = true := by
  rw [names, List.mem_mergeSort, Std.ExtTreeMap.mem_keys, contains,
    Std.ExtTreeMap.contains_iff_mem]

theorem length_names (r : Registry) : r.names.length = r.size := by
  rw [names, List.length_mergeSort, Std.ExtTreeMap.length_keys, size]

theorem isEmpty_iff_names {r : Registry} : r.isEmpty = true ↔ r.names = [] := by
  rw [← List.length_eq_zero_iff, length_names, isEmpty, size,
    Std.ExtTreeMap.isEmpty_eq_size_beq_zero, beq_iff_eq]

/-- Sorting puts no name after a greater one, and each name was collected once. -/
theorem names_sorted (r : Registry) : r.names.Pairwise (· < ·) := by
  have hle : r.names.Pairwise fun a b => decide (a ≤ b) = true :=
    List.pairwise_mergeSort
      (fun a b c hab hbc => by
        rw [decide_eq_true_eq] at hab hbc ⊢
        exact String.le_trans hab hbc)
      (fun a b => by
        rw [Bool.or_eq_true, decide_eq_true_eq, decide_eq_true_eq]
        exact String.le_total a b)
      r.functions.keys
  have hnodup : r.names.Nodup :=
    (List.mergeSort_perm _ _).nodup_iff.mpr Std.ExtTreeMap.nodup_keys
  refine hle.imp₂ (fun a b hab hne => String.not_le.mp fun hba => hne ?_) hnodup
  exact String.le_antisymm (of_decide_eq_true hab) hba

/-! ## The functions that are always there -/

/-- The functions that are always there are found under the names of their
table. -/
theorem get?_builtin {name : String} {f : Arguments → Bool} (h : (name, f) ∈ Builtin.table) :
    builtin.get? name = some fun args => .bool (f args) := by
  simp only [Builtin.table, List.mem_cons, List.not_mem_nil, or_false, Prod.mk.injEq] at h
  rcases h with h | h | h | h | h | h | h | h | h | h
  all_goals
    obtain ⟨rfl, rfl⟩ := h
    rfl

theorem get?_builtin_merge {name : String} {f : Arguments → Bool}
    (h : (name, f) ∈ Builtin.table) {caller : Registry} (hcaller : caller.contains name = false) :
    (builtin.merge caller).get? name = some fun args => .bool (f args) := by
  rw [contains_eq, Option.isSome_eq_false_iff, Option.isNone_iff_eq_none] at hcaller
  rw [get?_merge, hcaller, Option.none_or]
  exact get?_builtin h

end Registry

end ConstraintTree

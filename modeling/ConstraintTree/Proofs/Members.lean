import ConstraintTree.Json.Members

/-!
# Members are what is found under their keys

The order of members is fixed by their type: as a list their keys ascend
(`pairwise_toList`). So they hold no more than what is found under their keys, and
members that answer alike are equal (`Members.ext_lookup`). What there is to know of
putting members in is therefore the answers afterwards (`lookup_insert`,
`lookup_ofList`), and two members of different keys may be put in either way around
(`insert_comm`).

Each proof goes along the members, and the bound of the cells passed so far says that no
smaller key is to come.
-/

namespace ConstraintTree

theorem Past.trans {bound : Option String} {k key : String} (hk : Past bound k)
    (hkey : k < key) : Past bound key :=
  fun b hb => String.lt_trans (hk b hb) hkey

namespace Members

variable {α : Type} {bound : Option String} {k l key : String}

/-! ## Where members stand -/

theorem mem_toList_of_lookup {ms : Members α bound} {v : α} (h : ms.lookup key = some v) :
    (key, v) ∈ ms.toList := by
  induction ms with
  | nil => cases h
  | cons k w _ rest ih =>
      rw [lookup] at h
      split at h
      · next hk =>
          cases h
          subst hk
          exact List.mem_cons_self
      · exact List.mem_cons_of_mem _ (ih h)

theorem past_of_mem_toList {ms : Members α bound} {m : String × α} (h : m ∈ ms.toList) :
    Past bound m.1 := by
  induction ms with
  | nil => cases h
  | cons k w past rest ih =>
      cases h with
      | head => exact past
      | tail _ hm => exact past.trans (past_some_iff.mp (ih hm))

/-- Keys ascend, so none comes twice. -/
theorem pairwise_toList (ms : Members α bound) :
    ms.toList.Pairwise fun m n => m.1 < n.1 := by
  induction ms with
  | nil => exact .nil
  | cons k w _ rest ih =>
      exact .cons (fun m hm => past_some_iff.mp (past_of_mem_toList hm)) ih

theorem lookup_eq_none_of_le {ms : Members α (some k)} (h : key ≤ k) :
    ms.lookup key = none := by
  rw [Option.eq_none_iff_forall_ne_some]
  intro v hv
  have hlt := past_some_iff.mp (past_of_mem_toList (mem_toList_of_lookup hv))
  exact String.not_lt.mpr h hlt

/-! ## Answers -/

theorem lookup_cons_self {v : α} {past : Past bound k} {rest : Members α (some k)} :
    (cons k v past rest).lookup k = some v := if_pos rfl

theorem lookup_cons_of_ne {v : α} {past : Past bound k} {rest : Members α (some k)}
    (h : k ≠ key) : (cons k v past rest).lookup key = rest.lookup key := if_neg h

theorem lookup_cons_of_lt {v : α} {past : Past bound k} {rest : Members α (some k)}
    (h : key < k) : (cons k v past rest).lookup key = none := by
  rw [lookup_cons_of_ne (String.ne_of_lt h).symm]
  exact lookup_eq_none_of_le (String.not_lt.mp (String.lt_asymm h))

/-- The first key of members can be told from their answers. -/
theorem head_eq_of_lookup {x y : α} {hk : Past bound k} {hl : Past bound l}
    {ms : Members α (some k)} {ns : Members α (some l)}
    (h : ∀ key, (cons k x hk ms).lookup key = (cons l y hl ns).lookup key) : k = l := by
  refine String.le_antisymm (String.not_lt.mp fun hlt => ?_) (String.not_lt.mp fun hlt => ?_)
  · have hl := h l
    rw [lookup_cons_of_lt hlt, lookup_cons_self] at hl
    cases hl
  · have hk := h k
    rw [lookup_cons_of_lt hlt, lookup_cons_self] at hk
    cases hk

/-- Members that answer alike are equal. -/
theorem ext_lookup {ms ns : Members α bound} (h : ∀ key, ms.lookup key = ns.lookup key) :
    ms = ns := by
  induction ms with
  | nil =>
      cases ns with
      | nil => rfl
      | cons l y _ _ =>
          have hl := (h l).trans lookup_cons_self
          cases hl
  | cons k x _ ms ih =>
      cases ns with
      | nil =>
          have hk := lookup_cons_self.symm.trans (h k)
          cases hk
      | cons l y _ ns =>
          obtain rfl := head_eq_of_lookup h
          have hvalue := h k
          rw [lookup_cons_self, lookup_cons_self, Option.some_inj] at hvalue
          have hrest : ms = ns := by
            refine ih fun key => ?_
            by_cases hkey : k = key
            · rw [← hkey, lookup_eq_none_of_le (String.le_refl k),
                lookup_eq_none_of_le (String.le_refl k)]
            · have hother := h key
              rwa [lookup_cons_of_ne hkey, lookup_cons_of_ne hkey] at hother
          rw [hvalue, hrest]

/-! ## Putting members in -/

theorem lookup_insert {value : α} {past : Past bound key} {ms : Members α bound} (other : String) :
    (ms.insert key value past).lookup other =
      if key = other then some value else ms.lookup other := by
  induction ms with
  | nil => rfl
  | cons k v hk rest ih =>
      rw [insert]
      split
      · rfl
      · split
        · next heq =>
            rw [lookup, lookup, heq]
            split <;> rfl
        · next hne =>
            rw [lookup, lookup, ih]
            by_cases hother : key = other
            · rw [if_pos hother, if_pos hother, if_neg fun hk => hne (hother.trans hk.symm)]
            · rw [if_neg hother, if_neg hother]

theorem insert_comm (hne : k ≠ l) (x y : α) {hk : Past bound k} {hl : Past bound l}
    (ms : Members α bound) :
    (ms.insert l y hl).insert k x hk = (ms.insert k x hk).insert l y hl := by
  refine ext_lookup fun key => ?_
  rw [lookup_insert, lookup_insert, lookup_insert, lookup_insert]
  by_cases hkey : k = key
  · rw [if_pos hkey, if_pos hkey, if_neg fun h => hne (hkey.trans h.symm)]
  · rw [if_neg hkey, if_neg hkey]

/-- Under each key stands what was put in last. -/
theorem lookup_foldl_insert (members : List (String × α)) (ms : Members α none) (key : String) :
    (members.foldl (fun ms m => ms.insert m.1 m.2 (.none m.1)) ms).lookup key =
      (members.reverse.lookup key).or (ms.lookup key) := by
  induction members generalizing ms with
  | nil => rfl
  | cons m members ih =>
      obtain ⟨k, v⟩ := m
      rw [List.foldl_cons, ih, lookup_insert, List.reverse_cons, List.lookup_append,
        Option.or_assoc]
      by_cases hkey : k = key
      · rw [if_pos hkey, hkey, List.lookup_cons_self, Option.some_or]
      · rw [if_neg hkey, List.lookup_cons, beq_false_of_ne (Ne.symm hkey), List.lookup_nil,
          Option.none_or]

theorem lookup_ofList (members : List (String × α)) (key : String) :
    (ofList members).lookup key = members.reverse.lookup key :=
  (lookup_foldl_insert members .nil key).trans (Option.or_none)

end Members

end ConstraintTree

import ConstraintTree.Schema.Basic
import ConstraintTree.Proofs.Path

/-!
# What a forest without violations is

The walk that looks for violations is a pair of functions that stop at the
first one. Everything else only wants to know what it means that there was
none, and that is a property of the forest which says nothing about order:
siblings have ids that are segments and differ from each other, and a node
without children has a type. `WellFormed` states it, and `siblingsError?` finds
nothing exactly in the forests that have it.

The ids of item nodes are free. They are not mentioned below, and the paths of
a walk do not mention them either.
-/

namespace ConstraintTree

/-- A tree has what all its subtrees hand upwards. The members come with the
hypothesis as a whole, which the recursor of the nested type does not offer. -/
@[elab_as_elim]
theorem Tree.induction {α : Type} {P : Tree α → Prop}
    (leaf : ∀ a, P (.leaf a))
    (fields : ∀ a ts, (∀ t ∈ ts, P t) → P (.fields a ts))
    (element : ∀ a t, P t → P (.element a t)) : ∀ t, P t := by
  intro t
  refine Tree.rec (motive_1 := P) (motive_2 := fun ts => ∀ t ∈ ts, P t)
    leaf fields element ?_ ?_ t
  · intro t ht
    cases ht
  · intro u us hu hus t ht
    rcases List.mem_cons.mp ht with rfl | ht
    · exact hu
    · exact hus t ht

namespace Schema

/-- Ids of siblings that can be addressed and told apart. -/
structure GoodIds (ids : List String) : Prop where
  isSegment : ∀ id ∈ ids, Path.IsSegment id
  nodup : ids.Nodup

theorem GoodIds.isSegment_id {ns : List Node} (h : GoodIds (ns.map Node.id))
    {n : Node} (hn : n ∈ ns) : Path.IsSegment n.id :=
  h.isSegment _ (List.mem_map_of_mem hn)

end Schema

namespace Node

/-- Siblings with good ids everywhere below, and a type where there are no
children. -/
inductive WellFormed : Node → Prop where
  | leaf {c : Constraint} : c.type?.isSome → WellFormed (.leaf c)
  | fields {c : Constraint} {members : List Node} :
      Schema.GoodIds (members.map id) → (∀ m ∈ members, WellFormed m) →
      WellFormed (.fields c members)
  | element {c : Constraint} {item : Node} :
      WellFormed item → WellFormed (.element c item)

theorem wellFormed_leaf {c : Constraint} :
    WellFormed (.leaf c) ↔ c.type?.isSome :=
  ⟨fun h => by cases h; assumption, .leaf⟩

theorem wellFormed_fields {c : Constraint} {members : List Node} :
    WellFormed (.fields c members) ↔
      Schema.GoodIds (members.map id) ∧ ∀ m ∈ members, WellFormed m :=
  ⟨fun h => by cases h; exact ⟨‹_›, ‹_›⟩, fun h => .fields h.1 h.2⟩

theorem wellFormed_element {c : Constraint} {item : Node} :
    WellFormed (.element c item) ↔ WellFormed item :=
  ⟨fun h => by cases h; assumption, .element⟩

end Node

namespace Schema

/-- Siblings are well formed if their ids are good and each of them is well formed. -/
structure WellFormed (nodes : List Node) : Prop where
  ids : GoodIds (nodes.map Node.id)
  nodes : ∀ n ∈ nodes, n.WellFormed

/-! ## The walk finds nothing exactly there -/

theorem idError?_eq_none_iff {before : List String} {id path : String} :
    idError? before id path = none ↔ Path.IsSegment id ∧ id ∉ before := by
  rw [idError?]
  constructor
  · intro h
    split at h
    · cases h
    · next hempty =>
        split at h
        · cases h
        · next hdot =>
            split at h
            · cases h
            · next hbefore => exact ⟨⟨hempty, hdot⟩, hbefore⟩
  · rintro ⟨hid, hbefore⟩
    rw [if_neg hid.ne_empty, if_neg hid.no_dot, if_neg hbefore]

theorem wellFormed_nil : WellFormed [] :=
  ⟨⟨by simp, by simp⟩, by simp⟩

theorem wellFormed_cons {n : Node} {ns : List Node} :
    WellFormed (n :: ns) ↔
      Path.IsSegment n.id ∧ n.WellFormed ∧ WellFormed ns ∧
        ∀ m ∈ ns, m.id ≠ n.id := by
  constructor
  · rintro ⟨⟨hseg, hnodup⟩, hnodes⟩
    rw [List.map_cons] at hseg hnodup
    rw [List.nodup_cons] at hnodup
    refine ⟨hseg _ List.mem_cons_self, hnodes n List.mem_cons_self,
      ⟨⟨fun id hid => hseg id (List.mem_cons_of_mem _ hid), hnodup.2⟩,
        fun m hm => hnodes m (List.mem_cons_of_mem n hm)⟩, ?_⟩
    intro m hm heq
    exact hnodup.1 (heq ▸ List.mem_map_of_mem hm)
  · rintro ⟨hseg, hn, hns, hne⟩
    refine ⟨⟨?_, ?_⟩, List.forall_mem_cons.mpr ⟨hn, hns.nodes⟩⟩
    · rw [List.map_cons]
      exact List.forall_mem_cons.mpr ⟨hseg, hns.ids.isSegment⟩
    · rw [List.map_cons, List.nodup_cons]
      refine ⟨fun hmem => ?_, hns.ids.nodup⟩
      obtain ⟨m, hm, heq⟩ := List.mem_map.mp hmem
      exact hne m hm heq

/-- Siblings pass one after another. The ids met so far only ever grow, so a
later id has to be new among all the earlier ones. -/
theorem siblingsError?_eq_none_iff {parent : String} {before : List String}
    {ns : List Node}
    (hnode : ∀ n ∈ ns, ∀ path, nodeError? path n = none ↔ n.WellFormed) :
    siblingsError? parent before ns = none ↔
      WellFormed ns ∧ ∀ n ∈ ns, n.id ∉ before := by
  induction ns generalizing before with
  | nil =>
      rw [siblingsError?]
      exact iff_of_true rfl ⟨wellFormed_nil, by simp⟩
  | cons n ns ih =>
      rw [siblingsError?]
      simp only [Option.orElse_eq_orElse, Option.orElse_eq_or,
        Option.or_eq_none_iff]
      rw [idError?_eq_none_iff, hnode n List.mem_cons_self,
        ih fun m hm => hnode m (List.mem_cons_of_mem n hm), wellFormed_cons,
        List.forall_mem_cons]
      have hsplit : (∀ m ∈ ns, m.id ∉ before ++ [n.label.id]) ↔
          (∀ m ∈ ns, m.id ≠ n.id) ∧ ∀ m ∈ ns, m.id ∉ before := by
        simp only [List.mem_append, List.mem_singleton, not_or]
        exact ⟨fun h => ⟨fun m hm => (h m hm).2, fun m hm => (h m hm).1⟩,
          fun h m hm => ⟨h.2 m hm, h.1 m hm⟩⟩
      rw [hsplit]
      constructor
      · rintro ⟨⟨hid, hnew⟩, hn, hns, hne, hbefore⟩
        exact ⟨⟨hid, hn, hns, hne⟩, hnew, hbefore⟩
      · rintro ⟨⟨hid, hn, hns, hne⟩, hnew, hbefore⟩
        exact ⟨⟨hid, hnew⟩, hn, hns, hne, hbefore⟩

theorem nodeError?_eq_none_iff (n : Node) :
    ∀ path, nodeError? path n = none ↔ n.WellFormed := by
  induction n using Tree.induction with
  | leaf c =>
      intro path
      rw [nodeError?, Node.wellFormed_leaf]
      cases c.type? <;> simp
  | fields c members ih =>
      intro path
      rw [nodeError?, siblingsError?_eq_none_iff ih, Node.wellFormed_fields]
      exact ⟨fun h => ⟨h.1.ids, h.1.nodes⟩,
        fun h => ⟨⟨h.1, h.2⟩, fun _ _ => List.not_mem_nil⟩⟩
  | element c item ih =>
      intro path
      rw [nodeError?, ih, Node.wellFormed_element]

/-- A schema keeps its nodes as they were given, and they are well formed. -/
theorem new_ok {nodes : List Node} {s : Schema} (h : new nodes = .ok s) :
    s.nodes = nodes ∧ WellFormed nodes := by
  rw [new] at h
  split at h
  · next hnone =>
      cases h
      exact ⟨rfl, ((siblingsError?_eq_none_iff
        fun n _ => nodeError?_eq_none_iff n).mp hnone).1⟩
  · cases h

end Schema

end ConstraintTree

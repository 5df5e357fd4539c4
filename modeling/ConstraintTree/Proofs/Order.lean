import Mathlib.Data.List.Pairwise
import Std.Data.String.ToNat
import ConstraintTree.Proofs.Instance

/-!
# The order of a report

Every message is about a path, and the paths of a report are in the order of
the schema. Two of them run along the same nodes for a while and then part, at
two members of one node or at two items of one array, and the one that comes
first there comes first in the report. They always part: nothing is reported
below a failure, so no path leads on to another one.

The proof goes down the schema. All that is found at a node begins with the
path of the node (`steps_of_mem_findings`), so what two siblings find parts
right below their parent, where their own segments differ, and what one sibling
finds is in order by induction. The order is always stated from the root, since
that is where the paths start.
-/

namespace ConstraintTree

namespace Children

/-- The children that some steps lead to. Below member nodes a step is an id,
and below an item node every step leads to the item node. -/
def at? : Children → List String → Option Children
  | children, [] => some children
  | .fields members, s :: ss => do
    let m ← members.find? (·.id == s)
    let children ← m.children?
    children.at? ss
  | .element item, _ :: ss => do
    let children ← item.children?
    children.at? ss

/-- One step comes before another one: an id that is declared earlier, or the
decimal of a smaller index. -/
def Precedes : Children → String → String → Prop
  | .fields members, s, t =>
    ∃ i j : Nat, i < j ∧ members[i]?.map Node.id = some s ∧
      members[j]?.map Node.id = some t
  | .element _, s, t => ∃ i j : Nat, i < j ∧ s = Nat.repr i ∧ t = Nat.repr j

/-- Some steps come before others. They part somewhere, and there the step of
the former comes before the step of the latter. -/
def InOrder (root : Children) (as bs : List String) : Prop :=
  ∃ front s t as' bs', as = front ++ s :: as' ∧ bs = front ++ t :: bs' ∧ s ≠ t ∧
    ∃ children, root.at? front = some children ∧ children.Precedes s t

theorem InOrder.not_isPrefix {root : Children} {as bs : List String}
    (h : InOrder root as bs) : ¬ as <+: bs ∧ ¬ bs <+: as := by
  obtain ⟨front, s, t, as', bs', rfl, rfl, hne, -⟩ := h
  constructor
  · intro h
    exact hne (List.cons_prefix_cons.mp ((List.prefix_append_right_inj front).mp h)).1
  · intro h
    exact hne.symm
      (List.cons_prefix_cons.mp ((List.prefix_append_right_inj front).mp h)).1

theorem at?_append (root : Children) (ss ts : List String) :
    root.at? (ss ++ ts) = (root.at? ss).bind (·.at? ts) := by
  induction ss generalizing root with
  | nil => cases root <;> rfl
  | cons s ss ih =>
      cases root with
      | fields members =>
          rw [List.cons_append, at?, at?]
          cases members.find? (·.id == s) with
          | none => rfl
          | some m =>
              show (m.children?.bind _) = (m.children?.bind _).bind _
              cases m.children? with
              | none => rfl
              | some children => exact ih children
      | element item =>
          rw [List.cons_append, at?, at?]
          cases item.children? with
          | none => rfl
          | some children => exact ih children

theorem at?_member {members : List Node} {m : Node}
    (hids : Schema.GoodIds (members.map Node.id)) (hm : m ∈ members) :
    (Children.fields members).at? [m.id] = m.children? := by
  have hfind : members.find? (·.id == m.id) = some m := by
    obtain ⟨m', hm'⟩ : ∃ m', members.find? (·.id == m.id) = some m' := by
      rw [← Option.isSome_iff_exists, List.find?_isSome]
      exact ⟨m, hm, beq_self_eq_true _⟩
    have hid : m'.id = m.id := by
      simpa using List.find?_some hm'
    rw [hm', Place.eq_of_id_eq hids (List.mem_of_find?_eq_some hm') hm hid]
  rw [at?, hfind]
  show (m.children?.bind _) = _
  cases hc : m.children? with
  | none => rfl
  | some children => cases children <;> rfl

theorem at?_item (item : Node) (s : String) :
    (Children.element item).at? [s] = item.children? := by
  rw [at?]
  cases hc : item.children? with
  | none => rfl
  | some children => cases children <;> rfl

end Children

namespace Plan

open ConstraintTree.Path

/-- Whatever is found at a node or below has a path that leads through it. -/
theorem steps_of_mem_findings {r : Registry} {data : Json} {x : Place}
    (hwf : x.node.WellFormed) {f : Finding}
    (hf : f ∈ (ofNode r x.node).findings data x.path) :
    ∃ rest, steps f.target = steps x.path ++ rest := by
  induction x using Place.induction data with
  | step x ih =>
      rw [findings_eq] at hf
      split at hf
      · next w hw =>
          cases List.mem_singleton.mp hf
          exact ⟨[], (List.append_nil _).symm⟩
      · next hsilent =>
          obtain ⟨y, hxy, hf⟩ := mem_below_ofNode.mp hf
          obtain ⟨rest, hrest⟩ := ih y hxy (hxy.wellFormed hwf) hf
          obtain ⟨s, hs, heq⟩ := hxy.path_eq hwf
          exact ⟨s :: rest, by rw [hrest, heq, steps_join hs]; simp⟩

/-- Findings come in the order of the nodes and items that their paths lead to. -/
def FindingsInOrder (root : Children) (fs : List Finding) : Prop :=
  fs.Pairwise fun f g => root.InOrder (steps f.target) (steps g.target)

/-- Two findings at different children of one node part right below it. -/
theorem inOrder_of_children {r : Registry} {data : Json} {root children : Children}
    {path s t : String} {n m : Node} (hs : IsSegment s) (ht : IsSegment t)
    (hn : n.WellFormed) (hm : m.WellFormed)
    (hat : root.at? (steps path) = some children)
    (hst : s ≠ t) (hprec : children.Precedes s t) {f g : Finding}
    (hf : f ∈ (ofNode r n).findings data (join path s))
    (hg : g ∈ (ofNode r m).findings data (join path t)) :
    root.InOrder (steps f.target) (steps g.target) := by
  obtain ⟨as, has⟩ := steps_of_mem_findings (x := ⟨n, join path s⟩) hn hf
  obtain ⟨bs, hbs⟩ := steps_of_mem_findings (x := ⟨m, join path t⟩) hm hg
  refine ⟨steps path, s, t, as, bs, ?_, ?_, hst, children, hat, hprec⟩
  · rw [has, steps_join hs]; simp
  · rw [hbs, steps_join ht]; simp

theorem findingsInOrder_siblings {r : Registry} {data : Json} {root : Children}
    {parent : String} {ns : List Node} (hwf : Schema.WellFormed ns)
    (hat : root.at? (steps parent) = some (.fields ns))
    (hnode : ∀ n ∈ ns, ∀ path, root.at? (steps path) = n.children? →
      FindingsInOrder root ((ofNode r n).findings data path)) :
    FindingsInOrder root (memberFindings data parent (ofNodes r ns)) := by
  have hseg : ∀ n ∈ ns, IsSegment n.id := fun n hn => hwf.ids.isSegment_id hn
  rw [memberFindings_ofNodes, FindingsInOrder, List.pairwise_flatMap]
  -- What one of them finds is in order, and what two of them find parts at
  -- their ids.
  constructor
  · intro n hn
    refine hnode n hn _ ?_
    rw [steps_join (hseg n hn), Children.at?_append, hat]
    exact Children.at?_member hwf.ids hn
  · rw [List.pairwise_iff_getElem]
    intro i j hi hj hij f hf g hg
    have hni := List.getElem_mem hi
    have hnj := List.getElem_mem hj
    refine inOrder_of_children (hseg _ hni) (hseg _ hnj) (hwf.nodes _ hni)
      (hwf.nodes _ hnj) hat ?_ ⟨i, j, hij, ?_, ?_⟩ hf hg
    · have hpair := List.pairwise_iff_getElem.mp hwf.ids.nodup i j
        (by simpa using hi) (by simpa using hj) hij
      simpa using hpair
    · rw [List.getElem?_eq_getElem hi]; rfl
    · rw [List.getElem?_eq_getElem hj]; rfl

theorem findingsInOrder {r : Registry} {data : Json} {root : Children} {n : Node}
    (hwf : n.WellFormed) :
    ∀ path, root.at? (steps path) = n.children? →
      FindingsInOrder root ((ofNode r n).findings data path) := by
  induction n using Tree.induction with
  | leaf c =>
      intro path _
      rw [findings_eq]
      split
      · exact List.pairwise_singleton _ _
      · exact List.Pairwise.nil
  | fields c members ih =>
      intro path hat
      rw [findings_eq]
      split
      · exact List.pairwise_singleton _ _
      · obtain ⟨hids, hmembers⟩ := Node.wellFormed_fields.mp hwf
        exact findingsInOrder_siblings ⟨hids, hmembers⟩ hat
          fun m hm => ih m hm (hmembers m hm)
  | element c item ih =>
      intro path hat
      have hitem := Node.wellFormed_element.mp hwf
      rw [findings_eq]
      split
      · exact List.pairwise_singleton _ _
      · rw [ofNode, below]
        split
        · next xs hxs =>
            rw [FindingsInOrder, List.pairwise_flatMap]
            -- As with siblings, but the steps are indices and ascend.
            constructor
            · intro i _
              refine ih hitem _ ?_
              rw [steps_item, Children.at?_append, hat]
              exact Children.at?_item item (Nat.repr i)
            · refine List.pairwise_lt_range.imp ?_
              intro i j hij f hf g hg
              exact inOrder_of_children (isSegment_repr i) (isSegment_repr j) hitem
                hitem hat (fun h => Nat.ne_of_lt hij (Nat.repr_injective h))
                ⟨i, j, hij, rfl, rfl⟩ hf hg
        · exact List.Pairwise.nil

end Plan

namespace Validator

open ConstraintTree.Path

variable {nodes : List Node} {caller : Registry} {v : Validator}

theorem target_ne_of_mem_findings (h : Validator.new nodes caller = .ok v)
    {data : Json} {f : Finding} (hf : f ∈ v.findings data) : f.target ≠ "" := by
  have hv := new_ok h
  rw [hv.findings_eq, Plan.memberFindings_ofNodes] at hf
  obtain ⟨n, hn, hf⟩ := List.mem_flatMap.mp hf
  have hseg := hv.wellFormed.ids.isSegment_id hn
  obtain ⟨rest, hrest⟩ :=
    Plan.steps_of_mem_findings (x := ⟨n, join "" n.id⟩)
      (hv.wellFormed.nodes n hn) hf
  rw [steps_join hseg] at hrest
  intro hempty
  rw [hempty] at hrest
  cases hrest

theorem segments_inOrder (h : Validator.new nodes caller = .ok v) (data : Json) :
    (v.messages data).Pairwise fun m m' =>
      (Children.fields nodes).InOrder (segments m.target) (segments m'.target) := by
  have hv := new_ok h
  have hsteps : ∀ f ∈ v.findings data, steps f.target = segments f.target :=
    fun f hf => steps_of_ne (target_ne_of_mem_findings h hf)
  have horder : Plan.FindingsInOrder (.fields nodes) (v.findings data) := by
    rw [hv.findings_eq]
    exact Plan.findingsInOrder_siblings hv.wellFormed rfl
      fun n hn => Plan.findingsInOrder (hv.wellFormed.nodes n hn)
  rw [messages_eq_findings, List.pairwise_map]
  refine horder.imp_of_mem fun hf hg hfg => ?_
  rw [hsteps _ hf, hsteps _ hg] at hfg
  exact hfg

/-- The targets of a report are in the order of the schema, none leads on to
another, and hence no target is told twice and nothing is told below a
failure. -/
theorem messages_inOrder (h : Validator.new nodes caller = .ok v) (data : Json) :
    ((v.messages data).Pairwise fun m m' =>
      ¬ segments m.target <+: segments m'.target ∧
        ¬ segments m'.target <+: segments m.target ∧
        (Children.fields nodes).InOrder (segments m.target) (segments m'.target)) ∧
    (∀ target, ((v.report data).forTarget target).length ≤ 1) ∧
    ∀ m ∈ v.messages data, ∀ m' ∈ v.messages data,
      segments m.target <+: segments m'.target → m = m' := by
  have horder := segments_inOrder h data
  have hapart : (v.messages data).Pairwise fun m m' =>
      ¬ segments m.target <+: segments m'.target ∧
        ¬ segments m'.target <+: segments m.target :=
    horder.imp fun hin => hin.not_isPrefix
  refine ⟨hapart.imp₂ (fun _ _ hne hin => ⟨hne.1, hne.2, hin⟩) horder, ?_, ?_⟩
  · intro target
    have hmessages : (v.report data).messages = v.messages data :=
      (messages_eq_findings v data).symm
    rw [Report.forTarget, hmessages]
    have hpair := hapart.filter (·.target == target)
    have htarget : ∀ m ∈ (v.messages data).filter (·.target == target),
        m.target = target := by
      intro m hm
      simpa using (List.mem_filter.mp hm).2
    generalize (v.messages data).filter (·.target == target) = ms at hpair htarget ⊢
    match ms with
    | [] => exact Nat.zero_le 1
    | [_] => exact Nat.le_refl 1
    | m :: m' :: rest =>
        have hne := ((List.pairwise_cons.mp hpair).1 m' List.mem_cons_self).1
        rw [htarget m (by simp), htarget m' (by simp)] at hne
        exact absurd (List.prefix_refl _) hne
  · intro m hm m' hm' hprefix
    by_contra hne
    have : Std.Symm fun m m' : Message =>
        ¬ segments m.target <+: segments m'.target ∧
          ¬ segments m'.target <+: segments m.target := ⟨fun _ _ => And.symm⟩
    exact (hapart.forall hm hm' hne).1 hprefix

theorem messages_inOrder_addressBook :
    ∃ v, Validator.new addressBook .empty = .ok v ∧
      (Children.fields addressBook).InOrder ["contacts", "0", "kind"]
        ["contacts", "1", "kind"] ∧
      ∀ target, ((v.report addresses).forTarget target).length ≤ 1 := by
  have hall := @messages_inOrder addressBook .empty _ rfl addresses
  refine ⟨_, rfl, ?_, hall.2.1⟩
  exact (List.pairwise_cons.mp hall.1).1 _ List.mem_cons_self |>.2.2

end Validator

end ConstraintTree

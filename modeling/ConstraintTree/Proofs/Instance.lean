import Mathlib.Data.List.Nodup
import Mathlib.Logic.Relation
import ConstraintTree.Proofs.Compile

/-!
# The places that a schema speaks of

A schema does not say how it is walked. It says which nodes are asked about
which places in the data: a root node about the place of its id, a member node
about the place of its id below any place that its parent is asked about, and
an item node about every item of the array at such a place. These pairs of a
node and a path are the instances of the nodes, and they are defined here
without any order and without any failure in the way.

What the walk finds is then a matter of which instances it gets to. It goes
from a place to a child as long as the node has nothing to say, so something is
found exactly at the end of a silent way down from the root
(`mem_findings_iff`).

In a well-formed schema a path belongs to one node only, and the way down to a
place is the only one. That is where the ids matter: they are segments, so the
last step can be read off a path, and siblings have different ones.
-/

namespace ConstraintTree

/-- A node with the path of a value that it is asked about. -/
structure Place where
  node : Node
  path : String

namespace Place

/-- One step down: from a node to a member, or to its item node at one item of
the array that is there. -/
inductive Child (data : Json) : Place → Place → Prop where
  | member {c : Constraint} {members : List Node} {path : String} {m : Node} :
      m ∈ members →
      Child data ⟨.fields c members, path⟩ ⟨m, Path.join path m.id⟩
  | item {c : Constraint} {item : Node} {path : String} {xs : List Json} {i : Nat} :
      data.get? path = some (.arr xs) → i < xs.length →
      Child data ⟨.element c item, path⟩ ⟨item, Path.item path i⟩

/-- The places that some root nodes and all nodes below are asked about. -/
inductive IsInstance (data : Json) (nodes : List Node) : Place → Prop where
  | root {n : Node} : n ∈ nodes → IsInstance data nodes ⟨n, n.id⟩
  | child {x y : Place} :
      IsInstance data nodes x → Child data x y → IsInstance data nodes y

variable {data : Json} {nodes : List Node}

/-! ## A path belongs to one node -/

theorem Child.wellFormed {x y : Place} (h : Child data x y)
    (hx : x.node.WellFormed) : y.node.WellFormed := by
  cases h with
  | member hm => exact (Node.wellFormed_fields.mp hx).2 _ hm
  | item => exact Node.wellFormed_element.mp hx

theorem Child.path_eq {x y : Place} (h : Child data x y)
    (hx : x.node.WellFormed) :
    ∃ s, Path.IsSegment s ∧ y.path = Path.join x.path s := by
  cases h with
  | @member _ _ _ m hm =>
      exact ⟨m.id, (Node.wellFormed_fields.mp hx).1.isSegment_id hm, rfl⟩
  | @item _ _ _ _ i => exact ⟨Nat.repr i, Path.isSegment_repr i, rfl⟩

theorem Child.calls {x y : Place} (h : Child data x y) :
    y.node.calls ⊆ x.node.calls := by
  cases h with
  | member hm => exact Node.calls_member hm
  | item => exact Node.calls_item

theorem eq_of_id_eq {ns : List Node} (hids : Schema.GoodIds (ns.map Node.id))
    {n m : Node} (hn : n ∈ ns) (hm : m ∈ ns) (h : n.id = m.id) : n = m :=
  List.inj_on_of_nodup_map hids.nodup hn hm h

theorem Child.node_eq {n m m' : Node} {p q : String} (hn : n.WellFormed)
    (h : Child data ⟨n, p⟩ ⟨m, q⟩) (h' : Child data ⟨n, p⟩ ⟨m', q⟩) : m = m' := by
  cases h with
  | @item _ _ _ _ i =>
      -- There is one item node, whatever the index.
      generalize Path.item p i = q at h'
      cases h'
      rfl
  | @member _ members _ _ hm =>
      have hids := (Node.wellFormed_fields.mp hn).1
      generalize hq : Path.join p m.id = q at h'
      cases h' with
      | member hm' =>
          have hid := (Path.join_injective (hids.isSegment_id hm)
            (hids.isSegment_id hm') hq).2
          exact eq_of_id_eq hids hm hm' hid

theorem IsInstance.wellFormed (hwf : Schema.WellFormed nodes) {x : Place}
    (h : IsInstance data nodes x) : x.node.WellFormed := by
  induction h with
  | root hn => exact hwf.nodes _ hn
  | child _ hxy ih => exact hxy.wellFormed ih

theorem IsInstance.path_ne (hwf : Schema.WellFormed nodes) {x : Place}
    (h : IsInstance data nodes x) : x.path ≠ "" := by
  cases h with
  | root hn => exact (hwf.ids.isSegment_id hn).ne_empty
  | child hx hxy =>
      obtain ⟨s, hs, heq⟩ := hxy.path_eq (hx.wellFormed hwf)
      rw [heq]
      exact Path.join_ne_empty hs.ne_empty

/-- What holds of all calls of a schema holds of the calls at every instance. -/
theorem IsInstance.forall_calls {p : Call → Prop} (hcalls : ∀ n ∈ nodes, ∀ call ∈ n.calls, p call)
    {x : Place} (h : IsInstance data nodes x) : ∀ call ∈ x.node.calls, p call := by
  induction h with
  | root hn => exact hcalls _ hn
  | child _ hxy ih => exact fun call hcall => ih call (hxy.calls hcall)

theorem IsInstance.of_reach {x y : Place} (hx : IsInstance data nodes x)
    (h : Relation.ReflTransGen (Child data) x y) : IsInstance data nodes y := by
  induction h with
  | refl => exact hx
  | tail _ hyz ih => exact ih.child hyz

/-- No step down ends at the path of a root: what is before the last segment of
that path is empty, and no instance has the empty path. -/
theorem IsInstance.child_path_ne_id (hwf : Schema.WellFormed nodes) {x y : Place}
    {n : Node} (hx : IsInstance data nodes x) (hxy : Child data x y)
    (hn : n ∈ nodes) : y.path ≠ n.id := by
  intro hpath
  obtain ⟨s, hs, heq⟩ := hxy.path_eq (hx.wellFormed hwf)
  have hseg := hwf.ids.isSegment_id hn
  have hjoin : Path.join x.path s = Path.join "" n.id := heq.symm.trans hpath
  exact hx.path_ne hwf (Path.join_injective hs hseg hjoin).1

/-- An instance is told by its path: the last segment leads back to the parent,
and the parent is told by the rest. -/
theorem IsInstance.node_eq (hwf : Schema.WellFormed nodes) {x : Place}
    (h : IsInstance data nodes x) :
    ∀ {y : Place}, IsInstance data nodes y → x.path = y.path → x = y := by
  induction h with
  | @root n hn =>
      intro y hy hpath
      cases hy with
      | root hm => rw [eq_of_id_eq hwf.ids hn hm hpath]
      | child hx hxy => exact absurd hpath.symm (hx.child_path_ne_id hwf hxy hn)
  | @child u x hu hux ih =>
      intro y hy hpath
      cases hy with
      | root hm => exact absurd hpath (hu.child_path_ne_id hwf hux hm)
      | @child v _ hv hvy =>
          obtain ⟨s, hs, heq⟩ := hux.path_eq (hu.wellFormed hwf)
          obtain ⟨t, ht, heq'⟩ := hvy.path_eq (hv.wellFormed hwf)
          have hjoin : Path.join u.path s = Path.join v.path t := by
            rw [← heq, ← heq', hpath]
          have huv := ih hv (Path.join_injective hs ht hjoin).1
          subst huv
          obtain ⟨n, p⟩ := x
          obtain ⟨m, q⟩ := y
          cases hpath
          rw [Child.node_eq (hu.wellFormed hwf) hux hvy]

theorem IsInstance.parent_eq (hwf : Schema.WellFormed nodes) {x y z : Place}
    (hx : IsInstance data nodes x) (hy : IsInstance data nodes y)
    (hxz : Child data x z) (hyz : Child data y z) : x = y := by
  obtain ⟨s, hs, heq⟩ := hxz.path_eq (hx.wellFormed hwf)
  obtain ⟨t, ht, heq'⟩ := hyz.path_eq (hy.wellFormed hwf)
  exact hx.node_eq hwf hy (Path.join_injective hs ht (heq.symm.trans heq')).1

end Place

/-! ## What the walk finds -/

namespace Plan

/-- What is found below a node is what is found at its children. -/
theorem mem_below_ofNode {r : Registry} {root : Json} {x : Place} {f : Finding} :
    f ∈ (ofNode r x.node).below root x.path ↔
      ∃ y, Place.Child root x y ∧ f ∈ (ofNode r y.node).findings root y.path := by
  obtain ⟨n, path⟩ := x
  cases n with
  | leaf c =>
      rw [ofNode, below]
      refine iff_of_false List.not_mem_nil ?_
      rintro ⟨y, hy, -⟩
      cases hy
  | fields c members =>
      rw [ofNode, below, memberFindings_ofNodes, List.mem_flatMap]
      constructor
      · rintro ⟨m, hm, hf⟩
        exact ⟨⟨m, _⟩, .member hm, hf⟩
      · rintro ⟨y, hy, hf⟩
        cases hy with
        | @member _ _ _ m hm => exact ⟨m, hm, hf⟩
  | element c item =>
      rw [ofNode, below]
      constructor
      · intro hf
        split at hf
        · next xs hxs =>
            obtain ⟨i, hi, hf⟩ := List.mem_flatMap.mp hf
            exact ⟨⟨item, _⟩, .item hxs (List.mem_range.mp hi), hf⟩
        · cases hf
      · rintro ⟨y, hy, hf⟩
        cases hy with
        | @item _ _ _ xs i hxs hi =>
            rw [hxs]
            exact List.mem_flatMap.mpr ⟨i, List.mem_range.mpr hi, hf⟩

end Plan

namespace Place

/-- The node of a place has nothing to say there. -/
def Silent (r : Registry) (data : Json) (x : Place) : Prop :=
  (Plan.ofNode r x.node).wording? data x.path = none

/-- The run goes on from a place to one below it. -/
def Step (r : Registry) (data : Json) (x y : Place) : Prop :=
  Silent r data x ∧ Child data x y

variable {r : Registry} {data : Json}

theorem mem_findings_of_wording {x : Place} {w : Wording}
    (h : (Plan.ofNode r x.node).wording? data x.path = some w) :
    (⟨x.path, w⟩ : Finding) ∈ (Plan.ofNode r x.node).findings data x.path := by
  rw [Plan.findings_eq, h]
  exact List.mem_singleton_self _

theorem mem_findings_of_step {x y : Place} {f : Finding} (h : Step r data x y)
    (hf : f ∈ (Plan.ofNode r y.node).findings data y.path) :
    f ∈ (Plan.ofNode r x.node).findings data x.path := by
  rw [Plan.findings_eq, h.1]
  exact Plan.mem_below_ofNode.mpr ⟨y, h.2, hf⟩

/-- What the children of a place hand upwards holds of every place: steps go
down, whatever the data is. -/
@[elab_as_elim]
theorem induction (data : Json) {P : Place → Prop}
    (step : ∀ x, (∀ y, Child data x y → P y) → P x) (x : Place) : P x := by
  obtain ⟨n, path⟩ := x
  induction n using Tree.induction generalizing path with
  | leaf c =>
      refine step _ fun y hy => ?_
      cases hy
  | fields c members ih =>
      refine step _ fun y hy => ?_
      cases hy with
      | member hm => exact ih _ hm _
  | element c item ih =>
      refine step _ fun y hy => ?_
      cases hy with
      | item => exact ih _

/-- Something is found exactly where a node speaks at the end of a way down
whose other nodes are silent. -/
theorem mem_findings_iff {x : Place} {f : Finding} :
    f ∈ (Plan.ofNode r x.node).findings data x.path ↔
      ∃ m, Relation.ReflTransGen (Step r data) x ⟨m, f.target⟩ ∧
        (Plan.ofNode r m).wording? data f.target = some f.wording := by
  constructor
  · intro hf
    induction x using induction data with
    | step x ih =>
        rw [Plan.findings_eq] at hf
        split at hf
        · next w hw =>
            cases List.mem_singleton.mp hf
            exact ⟨x.node, .refl, hw⟩
        · next hsilent =>
            obtain ⟨y, hxy, hf⟩ := Plan.mem_below_ofNode.mp hf
            obtain ⟨m, hway, hw⟩ := ih y hxy hf
            exact ⟨m, .head ⟨hsilent, hxy⟩ hway, hw⟩
  · rintro ⟨m, hway, hw⟩
    induction hway using Relation.ReflTransGen.head_induction_on with
    | refl => exact mem_findings_of_wording hw
    | head hstep _ ih => exact mem_findings_of_step hstep ih

end Place

end ConstraintTree

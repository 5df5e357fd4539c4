import Mathlib.Data.List.Nodup
import Mathlib.Logic.Relation
import ConstraintTree.Proofs.Order
import ConstraintTree.Proofs.Rewriting

/-!
# One more member

A node put among the members of another node, or among the roots, adds its own
messages to a report and leaves all others as they are, in their words and in
their order. It may well add many, and all over the report: below an array there
is one instance of the node for each item, and their messages stand between
those of other nodes.

The new node is known by the way to it, which names the member at each step or
goes to the items of an array. Following the way in a document gives the paths
of the instances (`instancePaths`), and these are told from all other paths by
their steps. Whatever is found elsewhere parts from such a path before its end:
either at a sibling, where the ids differ, or at another item of an array, or
because it is about a node above, and then its path is too short. So deleting
what is at an instance or below one deletes nothing else, and what it deletes is
all that the new node has found.
-/

namespace ConstraintTree

namespace Path

/-- Neither at one of some paths nor below. -/
def Outside (qs : List String) (p : String) : Prop :=
  ∀ q ∈ qs, ¬ steps q <+: steps p

instance (qs : List String) : DecidablePred (Outside qs) := fun p =>
  inferInstanceAs (Decidable (∀ q ∈ qs, ¬ steps q <+: steps p))

/-- Below two children of one path nothing is below what is below the other. -/
theorem not_isPrefix_of_siblings {parent s t p q : String} (hs : IsSegment s) (ht : IsSegment t)
    (hne : s ≠ t) (hp : steps (join parent s) <+: steps p)
    (hq : steps (join parent t) <+: steps q) : ¬ steps p <+: steps q := by
  intro hpq
  rw [steps_join hs] at hp
  rw [steps_join ht] at hq
  have hst := List.prefix_of_prefix_length_le (hp.trans hpq) hq (by simp)
  rw [List.prefix_append_right_inj, List.cons_prefix_cons] at hst
  exact hne hst.1

end Path

/-! ## The way to a node -/

/-- One step down in a schema. -/
inductive Schema.Step where
  | member (id : String)
  | item

/-- The paths that some steps lead to from a path in a document, with any
index of the array that is there where they go to the items. -/
def Schema.instancePaths (data : Json) (path : String) : List Step → List String
  | [] => [path]
  | .member id :: steps => instancePaths data (Path.join path id) steps
  | .item :: steps =>
    match data.get? path with
    | some (.arr xs) =>
      (List.range xs.length).flatMap fun i => instancePaths data (Path.item path i) steps
    | _ => []

/-- A node `x` is put among some children or below them, where the steps lead. -/
inductive Children.Insertion (x : Node) : List Schema.Step → Children → Children → Prop where
  | here {front back : List Node} :
      Insertion x [.member x.id] (.fields (front ++ back)) (.fields (front ++ x :: back))
  | member {front back : List Node} {c : Constraint} {children children' : Children}
      {steps : List Schema.Step} :
      Insertion x steps children children' →
      Insertion x (.member c.id :: steps) (.fields (front ++ under (some children) c :: back))
        (.fields (front ++ under (some children') c :: back))
  | item {c : Constraint} {children children' : Children} {steps : List Schema.Step} :
      Insertion x steps children children' →
      Insertion x (.item :: steps) (.element (under (some children) c))
        (.element (under (some children') c))

namespace Place

variable {data : Json}

theorem steps_of_transGen {x y : Place} (h : Relation.TransGen (Child data) x y)
    (hwf : x.node.WellFormed) :
    ∃ s rest, Path.steps y.path = Path.steps x.path ++ s :: rest := by
  induction h using Relation.TransGen.head_induction_on with
  | single hxy =>
      obtain ⟨s, hs, heq⟩ := hxy.path_eq hwf
      exact ⟨s, [], by rw [heq, Path.steps_join hs]⟩
  | head hxz _ ih =>
      obtain ⟨s, hs, heq⟩ := hxz.path_eq hwf
      obtain ⟨t, rest, hrest⟩ := ih (hxz.wellFormed hwf)
      exact ⟨s, t :: rest, by rw [hrest, heq, Path.steps_join hs]; simp⟩

/-- The steps to a new node lead to its instances. -/
theorem transGen_of_mem_instancePaths {x : Node} {steps : List Schema.Step}
    {children children' : Children} (h : Children.Insertion x steps children children')
    {q : String} : ∀ {path c}, q ∈ Schema.instancePaths data path steps →
      Relation.TransGen (Child data) ⟨Children.under (some children') c, path⟩ ⟨x, q⟩ := by
  induction h with
  | here =>
      intro path c hq
      obtain rfl := List.mem_singleton.mp hq
      exact .single (.member (List.mem_append_right _ List.mem_cons_self))
  | @member front back c _ children' _ _ ih =>
      intro path c₀ hq
      have hmem : Children.under (some children') c ∈
          front ++ Children.under (some children') c :: back :=
        List.mem_append_right _ List.mem_cons_self
      have hchild : Child data
          ⟨.fields c₀ (front ++ Children.under (some children') c :: back), path⟩
          ⟨Children.under (some children') c, Path.join path _⟩ := .member hmem
      rw [Children.id_under] at hchild
      exact .head hchild (ih hq)
  | item _ ih =>
      intro path c₀ hq
      rw [Schema.instancePaths] at hq
      split at hq
      · next xs hxs =>
          obtain ⟨i, hi, hq⟩ := List.mem_flatMap.mp hq
          exact .head (.item hxs (List.mem_range.mp hi)) (ih hq)
      · cases hq

end Place

theorem Schema.WellFormed.id_ne {front back : List Node} {n : Node}
    (h : WellFormed (front ++ n :: back)) :
    (∀ m ∈ front, n.id ≠ m.id) ∧ ∀ m ∈ back, n.id ≠ m.id := by
  have hnodup := h.ids.nodup
  rw [List.map_append, List.map_cons, List.nodup_middle, ← List.map_append,
    List.nodup_cons] at hnodup
  rw [← List.forall_mem_append]
  intro m hm heq
  exact hnodup.1 (heq ▸ List.mem_map_of_mem hm)

/-! ## What is found elsewhere -/

namespace Plan

variable {r : Registry} {data : Json} {path : String} {qs : List String}

theorem memberFindings_append (ns ms : List Node) :
    memberFindings data path (ofNodes r (ns ++ ms)) =
      memberFindings data path (ofNodes r ns) ++ memberFindings data path (ofNodes r ms) := by
  simp only [memberFindings_ofNodes, List.flatMap_append]

theorem memberFindings_cons (n : Node) (ns : List Node) :
    memberFindings data path (ofNodes r (n :: ns)) =
      (ofNode r n).findings data (Path.join path n.id) ++
        memberFindings data path (ofNodes r ns) := by
  rw [memberFindings_ofNodes, memberFindings_ofNodes, List.flatMap_cons]

/-- What is found at one child of a path is outside whatever is at another one. -/
theorem filter_findings_sibling {n : Node} (hn : n.WellFormed) {s t : String}
    (hs : Path.IsSegment s) (ht : Path.IsSegment t) (hne : s ≠ t)
    (hqs : ∀ q ∈ qs, Path.steps (Path.join path s) <+: Path.steps q) :
    ((ofNode r n).findings data (Path.join path t)).filter (Path.Outside qs ·.target) =
      (ofNode r n).findings data (Path.join path t) := by
  refine List.filter_eq_self.mpr fun f hf => decide_eq_true fun q hq => ?_
  obtain ⟨rest, hrest⟩ := steps_of_mem_findings (x := ⟨n, Path.join path t⟩) hn hf
  exact Path.not_isPrefix_of_siblings hs ht hne (hqs q hq) ⟨rest, hrest.symm⟩

theorem filter_memberFindings_siblings {ns : List Node} {s : String} (hs : Path.IsSegment s)
    (hsegment : ∀ n ∈ ns, Path.IsSegment n.id) (hwf : ∀ n ∈ ns, n.WellFormed)
    (hne : ∀ n ∈ ns, s ≠ n.id)
    (hqs : ∀ q ∈ qs, Path.steps (Path.join path s) <+: Path.steps q) :
    (memberFindings data path (ofNodes r ns)).filter (Path.Outside qs ·.target) =
      memberFindings data path (ofNodes r ns) := by
  rw [memberFindings_ofNodes, List.filter_flatMap]
  exact List.flatMap_congr fun n hn =>
    filter_findings_sibling (hwf n hn) hs (hsegment n hn) (hne n hn) hqs

/-- Among siblings only the one that leads to the paths loses something. -/
theorem filter_memberFindings {front back : List Node} {n : Node}
    (hwf : Schema.WellFormed (front ++ n :: back))
    (hqs : ∀ q ∈ qs, Path.steps (Path.join path n.id) <+: Path.steps q) :
    (memberFindings data path (ofNodes r (front ++ n :: back))).filter
        (Path.Outside qs ·.target) =
      memberFindings data path (ofNodes r front) ++
        (((ofNode r n).findings data (Path.join path n.id)).filter (Path.Outside qs ·.target) ++
          memberFindings data path (ofNodes r back)) := by
  have hsegments : ∀ m ∈ front ++ n :: back, Path.IsSegment m.id :=
    fun m hm => hwf.ids.isSegment_id hm
  have hnodes := hwf.nodes
  rw [List.forall_mem_append, List.forall_mem_cons] at hsegments hnodes
  rw [memberFindings_append, memberFindings_cons, List.filter_append, List.filter_append,
    filter_memberFindings_siblings hsegments.2.1 hsegments.1 hnodes.1 hwf.id_ne.1 hqs,
    filter_memberFindings_siblings hsegments.2.1 hsegments.2.2 hnodes.2.2 hwf.id_ne.2 hqs]

/-- Every item only loses something to the paths that it leads to. -/
theorem filter_itemFindings {item : Node} (hitem : item.WellFormed) {qsAt : Nat → List String}
    (hqs : ∀ i, ∀ q ∈ qsAt i, Path.steps (Path.item path i) <+: Path.steps q) (count : Nat) :
    ((List.range count).flatMap fun i => (ofNode r item).findings data (Path.item path i)).filter
        (Path.Outside ((List.range count).flatMap qsAt) ·.target) =
      (List.range count).flatMap fun i =>
        ((ofNode r item).findings data (Path.item path i)).filter
          (Path.Outside (qsAt i) ·.target) := by
  rw [List.filter_flatMap]
  refine List.flatMap_congr fun i hi => List.filter_congr fun f hf => ?_
  obtain ⟨rest, hrest⟩ := steps_of_mem_findings (x := ⟨item, Path.item path i⟩) hitem hf
  rw [decide_eq_decide]
  constructor
  · exact fun hout q hq => hout q (List.mem_flatMap.mpr ⟨i, hi, hq⟩)
  · intro hout q hq
    obtain ⟨j, -, hq⟩ := List.mem_flatMap.mp hq
    by_cases hij : j = i
    · exact hout q (hij ▸ hq)
    · exact Path.not_isPrefix_of_siblings (Path.isSegment_repr j) (Path.isSegment_repr i)
        (fun heq => hij (Nat.repr_injective heq)) (hqs j q hq) ⟨rest, hrest.symm⟩

theorem filter_findings_self {n : Node} (hn : n.WellFormed) :
    ((ofNode r n).findings data path).filter (Path.Outside [path] ·.target) = [] := by
  refine List.filter_eq_nil_iff.mpr fun f hf => ?_
  obtain ⟨rest, hrest⟩ := steps_of_mem_findings (x := ⟨n, path⟩) hn hf
  simp [Path.Outside, hrest]

end Plan

/-! ## What is found on the way -/

namespace Children.Insertion

variable {x : Node} {steps : List Schema.Step} {children children' : Children}
  {r : Registry} {data : Json} {path : String} {q : String}

/-- No path to a new node ends at a node above it. -/
theorem steps_of_mem_instancePaths (h : Insertion x steps children children') {c : Constraint}
    (hwf : (under (some children') c).WellFormed)
    (hq : q ∈ Schema.instancePaths data path steps) :
    ∃ s rest, Path.steps q = Path.steps path ++ s :: rest :=
  Place.steps_of_transGen (Place.transGen_of_mem_instancePaths h hq) hwf

theorem isPrefix_of_mem_instancePaths (h : Insertion x steps children children') {c : Constraint}
    (hwf : (under (some children') c).WellFormed)
    (hq : q ∈ Schema.instancePaths data path steps) : Path.steps path <+: Path.steps q := by
  obtain ⟨s, rest, hrest⟩ := h.steps_of_mem_instancePaths hwf hq
  exact ⟨s :: rest, hrest.symm⟩

theorem outside (h : Insertion x steps children children') {c : Constraint}
    (hwf : (under (some children') c).WellFormed) :
    Path.Outside (Schema.instancePaths data path steps) path := by
  intro q hq hprefix
  obtain ⟨s, rest, hrest⟩ := h.steps_of_mem_instancePaths hwf hq
  have hlength := hprefix.length_le
  rw [hrest, List.length_append, List.length_cons] at hlength
  omega

/-- A node above a new one says the same as before, and is not at an instance. -/
theorem filter_findings (h : Insertion x steps children children') {c : Constraint}
    (hwf : (under (some children') c).WellFormed)
    (hbelow : ((Plan.ofNode r (under (some children') c)).below data path).filter
        (Path.Outside (Schema.instancePaths data path steps) ·.target) =
      (Plan.ofNode r (under (some children) c)).below data path) :
    ((Plan.ofNode r (under (some children') c)).findings data path).filter
        (Path.Outside (Schema.instancePaths data path steps) ·.target) =
      (Plan.ofNode r (under (some children) c)).findings data path := by
  have hwording : (Plan.ofNode r (under (some children') c)).wording? data path =
      (Plan.ofNode r (under (some children) c)).wording? data path := by
    cases h with
    | here => exact Plan.wording?_fields _ _ _ _ _
    | member => exact Plan.wording?_fields _ _ _ _ _
    | item => exact Plan.wording?_element _ _ _ _ _
  rw [Plan.findings_eq, Plan.findings_eq, hwording]
  cases (Plan.ofNode r (under (some children) c)).wording? data path with
  | some w => exact List.filter_eq_self.mpr (by simpa using h.outside hwf)
  | none => exact hbelow

/-- What is left below a node when the instances of the new one are left out is
what was there before. -/
theorem filter_below (h : Insertion x steps children children') :
    ∀ c path, (under (some children') c).WellFormed →
      ((Plan.ofNode r (under (some children') c)).below data path).filter
          (Path.Outside (Schema.instancePaths data path steps) ·.target) =
        (Plan.ofNode r (under (some children) c)).below data path := by
  induction h with
  | @here front back =>
      intro c path hwf
      obtain ⟨hids, hmembers⟩ := Node.wellFormed_fields.mp hwf
      have hx : x.WellFormed := hmembers x (List.mem_append_right _ List.mem_cons_self)
      have hqs : ∀ q ∈ [Path.join path x.id],
          Path.steps (Path.join path x.id) <+: Path.steps q := by
        simp
      refine (Plan.filter_memberFindings ⟨hids, hmembers⟩ hqs).trans ?_
      rw [Plan.filter_findings_self hx, List.nil_append]
      exact (Plan.memberFindings_append _ _).symm
  | @member front back c₁ children children' steps h ih =>
      intro c path hwf
      obtain ⟨hids, hmembers⟩ := Node.wellFormed_fields.mp hwf
      have hnode := hmembers _ (List.mem_append_right front List.mem_cons_self)
      -- The other siblings lose nothing, and the one on the way is the node of the hypothesis.
      refine (Plan.filter_memberFindings ⟨hids, hmembers⟩ fun q hq => ?_).trans ?_
      · rw [id_under]
        exact h.isPrefix_of_mem_instancePaths hnode hq
      · rw [id_under, Schema.instancePaths, h.filter_findings hnode (ih c₁ _ hnode), under,
          Plan.ofNode, Plan.below, Plan.memberFindings_append, Plan.memberFindings_cons, id_under]
  | @item c₁ children children' steps h ih =>
      intro c path hwf
      have hitem := Node.wellFormed_element.mp hwf
      -- The way leads on from every item, and each of these ways has its own instances.
      rw [under, under, Plan.ofNode, Plan.ofNode, Plan.below, Plan.below, Schema.instancePaths]
      cases data.get? path with
      | none => rfl
      | some value =>
          cases value with
          | arr xs =>
              refine (Plan.filter_itemFindings hitem
                (fun i q hq => h.isPrefix_of_mem_instancePaths hitem hq) xs.length).trans ?_
              exact List.flatMap_congr fun i _ => h.filter_findings hitem (ih c₁ _ hitem)
          | _ => rfl

end Children.Insertion

namespace Validator

open Schema (instancePaths)

/-- A node put anywhere among other nodes leaves the report as it was, but for
what is now said at its instances and below. -/
theorem filter_messages_of_insertion {x : Node} {steps : List Schema.Step}
    {nodes nodes' : List Node} (h : Children.Insertion x steps (.fields nodes) (.fields nodes'))
    {caller : Registry} {v v' : Validator} (hv : Validator.new nodes caller = .ok v)
    (hv' : Validator.new nodes' caller = .ok v') (data : Json) :
    (∀ q ∈ instancePaths data "" steps, Place.IsInstance data nodes' ⟨x, q⟩) ∧
    (v'.messages data).filter (Path.Outside (instancePaths data "" steps) ·.target) =
      v.messages data := by
  have hwf := (new_ok hv').wellFormed
  constructor
  · intro q hq
    have hway := @Place.transGen_of_mem_instancePaths data _ _ _ _ h _ "" (.new "") hq
    obtain ⟨y, hroot, hway⟩ := Relation.TransGen.head'_iff.mp hway
    cases hroot with
    | member hm => exact (Place.IsInstance.root hm).of_reach hway
  · have hfindings : (v'.findings data).filter
        (Path.Outside (instancePaths data "" steps) ·.target) = v.findings data := by
      rw [findings_of_new hv, findings_of_new hv']
      exact h.filter_below (.new "") "" (Node.wellFormed_fields.mpr ⟨hwf.ids, hwf.nodes⟩)
    rw [messages_eq_findings, messages_eq_findings, List.filter_map, ← hfindings]
    rfl

/-- The address book without the addresses. -/
def shortBook : List Node :=
  [ Node.new "name" |>.typed .string |>.require (.flag true),
    Node.new "contacts" |>.typed .array |>.withElement
      (Node.elementSchema.withFields
        [ Node.new "kind" |>.typed .string |>.require (.flag true)
            |>.rule ((Call.new "oneOf").target.literal
              (.arr [.str "email", .str "phone"])
              |>.withMessage "$prop must be email or phone") ]) ]

/-- The node for the address of a contact. -/
def addressNode : Node :=
  Node.new "address" |>.typed .any |>.require (.when ((Call.new "isNotEmpty").path "name"))

/-- The way from the root to that node. -/
def addressWay : List Schema.Step := [.member "contacts", .item, .member "address"]

theorem insertion_addressBook :
    Children.Insertion addressNode addressWay (.fields shortBook) (.fields addressBook) :=
  @Children.Insertion.member _ (addressBook.take 1) [] ⟨"contacts", some .array, none, []⟩ _ _ _
    (@Children.Insertion.item _ (.new "") _ _ _ (@Children.Insertion.here addressNode [_] []))

theorem filter_messages_of_insertion_addressBook :
    Children.Insertion addressNode addressWay (.fields shortBook) (.fields addressBook) ∧
    ∃ v v', Validator.new shortBook .empty = .ok v ∧ Validator.new addressBook .empty = .ok v' ∧
      instancePaths badAddresses "" addressWay =
        ["contacts.0.address", "contacts.1.address"] ∧
      (v'.messages badAddresses).filter
          (Path.Outside ["contacts.0.address", "contacts.1.address"] ·.target) =
        v.messages badAddresses ∧
      v'.messages badAddresses =
        [⟨"name", "name is not of type string (got boolean)"⟩,
          ⟨"contacts.0.kind", "contacts.0.kind must be email or phone"⟩,
          ⟨"contacts.0.address", "contacts.0.address is required"⟩,
          ⟨"contacts.1.kind", "contacts.1.kind is required"⟩] := by
  have hleft := (@filter_messages_of_insertion _ _ _ _ insertion_addressBook .empty _ _ rfl rfl
    badAddresses).2
  exact ⟨insertion_addressBook, _, _, rfl, rfl, rfl, hleft, rfl⟩

end Validator

end ConstraintTree

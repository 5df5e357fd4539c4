import Mathlib.Logic.Relation
import ConstraintTree.Proofs.Rewriting

/-!
# What an edit does to a report

An edit changes one node, or one list of siblings, and the change may be made
anywhere in a forest. `Schema.Edited` closes two such relations, one on nodes
and one on lists of siblings, under everything that can stand around them.

How the reports before and after are related depends on the edit. It may be
that a clean report stays clean, or that messages change their order only. The
way from one edited place to the whole forest is the same, as long as the
relation of the findings may be shown part by part, which is
`Finding.Composes`: what a node finds is its own finding alone, or the findings
of its children put together, and the node itself, which is not edited, says the
same as before. So a kind of edits is known by what it does at the place where
it is made, and the rest is `Schema.Edited.inherits`.
-/

namespace ConstraintTree

/-! ## Edits anywhere -/

/-- An edit of one node or of the members of one node, at a node or below it. -/
inductive Node.Edited (onNode : Node → Node → Prop)
    (onSiblings : List Node → List Node → Prop) : Node → Node → Prop where
  | self {n n' : Node} : onNode n n' → Edited onNode onSiblings n n'
  | siblings {c : Constraint} {ns ns' : List Node} :
      onSiblings ns ns' → Edited onNode onSiblings (.fields c ns) (.fields c ns')
  | member {c : Constraint} {front back : List Node} {n n' : Node} :
      Edited onNode onSiblings n n' →
      Edited onNode onSiblings (.fields c (front ++ n :: back)) (.fields c (front ++ n' :: back))
  | item {c : Constraint} {n n' : Node} :
      Edited onNode onSiblings n n' → Edited onNode onSiblings (.element c n) (.element c n')

/-- An edit of one node or of one list of siblings, the roots included. -/
inductive Schema.Edited (onNode : Node → Node → Prop)
    (onSiblings : List Node → List Node → Prop) : List Node → List Node → Prop where
  | siblings {ns ns' : List Node} : onSiblings ns ns' → Edited onNode onSiblings ns ns'
  | node {front back : List Node} {n n' : Node} :
      Node.Edited onNode onSiblings n n' →
      Edited onNode onSiblings (front ++ n :: back) (front ++ n' :: back)

/-! ## Relations that may be shown part by part -/

/-- A relation between the findings of two runs that may be shown piece by piece and edit by
edit. -/
structure Finding.Composes (R : List Finding → List Finding → Prop) : Prop where
  refl : ∀ fs, R fs fs
  trans : ∀ {fs gs hs}, R fs gs → R gs hs → R fs hs
  append : ∀ {fs fs' gs gs'}, R fs fs' → R gs gs' → R (fs ++ gs) (fs' ++ gs')

variable {R : List Finding → List Finding → Prop} {r : Registry}

theorem Finding.Composes.flatMap {α : Type} (hR : Composes R) {f g : α → List Finding}
    (h : ∀ x, R (f x) (g x)) (xs : List α) : R (xs.flatMap f) (xs.flatMap g) := by
  induction xs with
  | nil => exact hR.refl []
  | cons x xs ih =>
      rw [List.flatMap_cons, List.flatMap_cons]
      exact hR.append (h x) ih

/-- A node that says the same in both runs only hands on what is below it. -/
theorem Finding.Composes.findings_of_below (hR : Composes R) {p p' : Plan} {root : Json}
    {path : String} (hwording : p.wording? root path = p'.wording? root path)
    (hbelow : R (p.below root path) (p'.below root path)) :
    R (p.findings root path) (p'.findings root path) := by
  rw [Plan.findings_eq, Plan.findings_eq, hwording]
  cases p'.wording? root path with
  | some w => exact hR.refl _
  | none => exact hbelow

/-! ## What is taken over -/

/-- What an edited node has from the node it was before: its id, and, as far as
the node had them, a good form and calls that a registry knows. -/
structure Node.Inherits (r : Registry) (R : List Finding → List Finding → Prop)
    (n n' : Node) : Prop where
  id_eq : n.id = n'.id
  wellFormed : n.WellFormed → n'.WellFormed
  knows : (∀ call ∈ n.calls, r.Knows call) → ∀ call ∈ n'.calls, r.Knows call
  findings : ∀ root path,
    R ((Plan.ofNode r n).findings root path) ((Plan.ofNode r n').findings root path)

/-- The same for siblings, whose ids may change. -/
structure Schema.Inherits (r : Registry) (R : List Finding → List Finding → Prop)
    (ns ns' : List Node) : Prop where
  wellFormed : Schema.WellFormed ns → Schema.WellFormed ns'
  knows : (∀ n ∈ ns, ∀ call ∈ n.calls, r.Knows call) →
    ∀ n ∈ ns', ∀ call ∈ n.calls, r.Knows call
  findings : ∀ root parent, R (Plan.memberFindings root parent (Plan.ofNodes r ns))
    (Plan.memberFindings root parent (Plan.ofNodes r ns'))

namespace Schema.Inherits

theorem of_node (hR : Finding.Composes R) {n n' : Node} (h : n.Inherits r R n')
    (front back : List Node) : Inherits r R (front ++ n :: back) (front ++ n' :: back) where
  wellFormed hwf := by
    have hids : (front ++ n :: back).map Node.id = (front ++ n' :: back).map Node.id := by
      rw [List.map_append, List.map_cons, List.map_append, List.map_cons, h.id_eq]
    refine ⟨hids ▸ hwf.ids, ?_⟩
    have hnodes := hwf.nodes
    rw [List.forall_mem_append, List.forall_mem_cons] at hnodes ⊢
    exact ⟨hnodes.1, h.wellFormed hnodes.2.1, hnodes.2.2⟩
  knows hknows := by
    rw [List.forall_mem_append, List.forall_mem_cons] at hknows ⊢
    exact ⟨hknows.1, h.knows hknows.2.1, hknows.2.2⟩
  findings root parent := by
    simp only [Plan.memberFindings_ofNodes, List.flatMap_append, List.flatMap_cons, h.id_eq]
    exact hR.append (hR.refl _) (hR.append (h.findings root _) (hR.refl _))

theorem refl (hR : Finding.Composes R) (ns : List Node) : Inherits r R ns ns :=
  ⟨id, id, fun _ _ => hR.refl _⟩

theorem trans (hR : Finding.Composes R) {ns ns' ns'' : List Node} (h : Inherits r R ns ns')
    (h' : Inherits r R ns' ns'') : Inherits r R ns ns'' :=
  ⟨h'.wellFormed ∘ h.wellFormed, h'.knows ∘ h.knows,
    fun root parent => hR.trans (h.findings root parent) (h'.findings root parent)⟩

end Schema.Inherits

namespace Node.Inherits

theorem fields (hR : Finding.Composes R) {ns ns' : List Node} (h : Schema.Inherits r R ns ns')
    (c : Constraint) : Inherits r R (.fields c ns) (.fields c ns') where
  id_eq := rfl
  wellFormed hwf := by
    rw [wellFormed_fields] at hwf ⊢
    have hmembers := h.wellFormed ⟨hwf.1, hwf.2⟩
    exact ⟨hmembers.ids, hmembers.nodes⟩
  knows hknows := by
    rw [forall_calls_fields] at hknows ⊢
    exact ⟨hknows.1, h.knows hknows.2⟩
  findings root path :=
    hR.findings_of_below (Plan.wording?_fields _ _ _ _ _) (h.findings root path)

theorem element (hR : Finding.Composes R) {n n' : Node} (h : n.Inherits r R n')
    (c : Constraint) : Inherits r R (.element c n) (.element c n') where
  id_eq := rfl
  wellFormed hwf := by
    rw [wellFormed_element] at hwf ⊢
    exact h.wellFormed hwf
  knows hknows := by
    rw [forall_calls_element] at hknows ⊢
    exact ⟨hknows.1, h.knows hknows.2⟩
  findings root path := by
    refine hR.findings_of_below (Plan.wording?_element _ _ _ _ _) ?_
    rw [Plan.ofNode, Plan.ofNode, Plan.below, Plan.below]
    split
    · exact hR.flatMap (fun i => h.findings root (Path.item path i)) _
    · exact hR.refl _

end Node.Inherits

/-! ## From the edited place to the forest -/

variable {onNode : Node → Node → Prop} {onSiblings : List Node → List Node → Prop}

theorem Node.Edited.inherits (hR : Finding.Composes R)
    (hnode : ∀ n n', onNode n n' → n.Inherits r R n')
    (hsiblings : ∀ ns ns', onSiblings ns ns' → Schema.Inherits r R ns ns') {n n' : Node}
    (h : Edited onNode onSiblings n n') : n.Inherits r R n' := by
  induction h with
  | self h => exact hnode _ _ h
  | siblings h => exact .fields hR (hsiblings _ _ h) _
  | member _ ih => exact .fields hR (.of_node hR ih _ _) _
  | item _ ih => exact .element hR ih _

/-- After any number of edits. -/
theorem Schema.Edited.inherits (hR : Finding.Composes R)
    (hnode : ∀ n n', onNode n n' → n.Inherits r R n')
    (hsiblings : ∀ ns ns', onSiblings ns ns' → Schema.Inherits r R ns ns') {ns ns' : List Node}
    (h : Relation.ReflTransGen (Edited onNode onSiblings) ns ns') :
    Schema.Inherits r R ns ns' := by
  induction h with
  | refl => exact .refl hR ns
  | tail _ hedit ih =>
      refine ih.trans hR ?_
      cases hedit with
      | siblings h => exact hsiblings _ _ h
      | node h => exact .of_node hR (h.inherits hR hnode hsiblings) _ _

/-- A forest that takes everything over can be built if the one before can. -/
theorem Schema.Inherits.exists_validator {nodes nodes' : List Node} {caller : Registry}
    (h : Inherits (Registry.builtin.merge caller) R nodes nodes') {v : Validator}
    (hv : Validator.new nodes caller = .ok v) :
    ∃ v', Validator.new nodes' caller = .ok v' ∧
      ∀ data, R (v.findings data) (v'.findings data) := by
  have hbuilt := Validator.new_ok hv
  obtain ⟨v', hv'⟩ := Validator.exists_new_eq_ok_iff.mpr
    ⟨h.wellFormed hbuilt.wellFormed, h.knows (hbuilt.registry_eq ▸ hbuilt.knows)⟩
  refine ⟨v', hv', fun data => ?_⟩
  rw [Validator.findings_of_new hv, Validator.findings_of_new hv']
  exact h.findings data ""

end ConstraintTree

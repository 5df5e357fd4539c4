import ConstraintTree.Proofs.Edit
import ConstraintTree.Proofs.Topmost

/-!
# Asking for less

A schema is made weaker by dropping a `required`, by deleting rules or members,
and by letting a node take any type. Data that was valid stays valid, whatever
is dropped and wherever it stands.

This is less plain than it sounds. A node that has something to say hides what
is below it, so silencing it uncovers its children, and they may well have
something to say. But then the data was not valid: in valid data no node is
hidden. That is why the relation carried along is `Finding.StaysClean`, about
empty lists only, and nothing is said about the findings in data that is not
valid.
-/

namespace ConstraintTree

/-! ## Edits that ask for less -/

/-- The constraint that comes second asks for less. -/
inductive Constraint.Weakening : Constraint → Constraint → Prop where
  | dropRequired {c : Constraint} : Weakening c { c with required? := none }
  | deleteRules {c : Constraint} {rules : List Call} :
      rules.Sublist c.rules → Weakening c { c with rules := rules }
  | anyType {c : Constraint} : Weakening c { c with type? := some .any }

/-- A node keeps its children, whatever is dropped of its constraint. -/
inductive Node.Weakening : Node → Node → Prop where
  | constraint {children? : Option Children} {c c' : Constraint} :
      Constraint.Weakening c c' →
      Weakening (Children.under children? c) (Children.under children? c')

/-- One constraint is weakened, or siblings are deleted, anywhere in a forest. -/
def Schema.Weakening : List Node → List Node → Prop :=
  Schema.Edited Node.Weakening fun ns ns' => ns'.Sublist ns

/-! ## One node -/

variable {r : Registry}

theorem Children.calls_under_subset {children? : Option Children} {c c' : Constraint}
    (h : c'.calls ⊆ c.calls) : (under children? c').calls ⊆ (under children? c).calls := by
  rcases children? with _ | ⟨members⟩ | ⟨item⟩
  · exact h
  · exact fun call hcall => List.mem_append.mpr ((List.mem_append.mp hcall).imp_left (@h call))
  · exact fun call hcall => List.mem_append.mpr ((List.mem_append.mp hcall).imp_left (@h call))

namespace Plan

theorem brokenRule?_eq_none_iff {rules : List Bound} {root : Json} {path : String} :
    brokenRule? rules root path = none ↔
      ∀ b ∈ rules, (b.evaluate root path).isTruthy = true := by
  simp [brokenRule?]

theorem wording?_eq_none_iff {p : Plan} {root : Json} {path : String} :
    p.wording? root path = none ↔
      p.mismatch? (root.get? path) = none ∧
        (isBlank (root.get? path) = true →
          p.label.required?.bind (·.wording? root path) = none) ∧
        (isBlank (root.get? path) = false →
          ∀ b ∈ p.label.rules, (b.evaluate root path).isTruthy = true) := by
  rw [wording?]
  cases p.mismatch? (root.get? path) with
  | some actual => simp
  | none =>
      cases isBlank (root.get? path) with
      | true => simp
      | false => simp [brokenRule?_eq_none_iff]

theorem mismatch?_anyType {children? : Option Children} {c : Constraint}
    (h : c.type? = some .any) (value : Option Json) :
    (ofNode r (Children.under children? c)).mismatch? value = none := by
  have hany : (ofNode r (Children.under children? c)).label.declared? = some .any := by
    rw [declared?_ofNode, Children.label_under, h]
  rw [mismatch?, if_pos (.inl hany)]

end Plan

namespace Constraint.Weakening

variable {c c' : Constraint}

theorem id_eq (h : Weakening c c') : c.id = c'.id := by
  cases h <;> rfl

theorem isSome_type? (h : Weakening c c') (htype : c.type?.isSome) : c'.type?.isSome := by
  cases h with
  | dropRequired | deleteRules => exact htype
  | anyType => rfl

theorem calls_subset (h : Weakening c c') : c'.calls ⊆ c.calls := by
  rw [calls_eq, calls_eq]
  cases h with
  | dropRequired => exact List.subset_append_right _ _
  | deleteRules hrules =>
      exact List.append_subset.mpr ⟨List.subset_append_left _ _,
        fun _ hcall => List.mem_append_right _ (hrules.subset hcall)⟩
  | anyType => exact List.Subset.refl _

/-- A value that fits the type still fits it. -/
theorem mismatch?_eq_none (h : Weakening c c') {children? : Option Children}
    {value : Option Json}
    (hfits : (Plan.ofNode r (Children.under children? c)).mismatch? value = none) :
    (Plan.ofNode r (Children.under children? c')).mismatch? value = none := by
  cases h with
  | dropRequired | deleteRules =>
      rw [← hfits]
      refine Plan.mismatch?_under ?_ value
      rfl
  | anyType => exact Plan.mismatch?_anyType rfl _

/-- A node with nothing to say has nothing to say when it asks for less. -/
theorem wording?_eq_none (h : Weakening c c') {children? : Option Children} {root : Json}
    {path : String}
    (hsilent : (Plan.ofNode r (Children.under children? c)).wording? root path = none) :
    (Plan.ofNode r (Children.under children? c')).wording? root path = none := by
  rw [Plan.wording?_eq_none_iff, Plan.required?_ofNode, Plan.rules_ofNode,
    Children.label_under] at hsilent ⊢
  obtain ⟨hfits, hrequired, hrules⟩ := hsilent
  refine ⟨h.mismatch?_eq_none hfits, ?_⟩
  cases h with
  | dropRequired => exact ⟨fun _ => rfl, hrules⟩
  | deleteRules hsublist =>
      exact ⟨hrequired, fun hblank b hb => hrules hblank b ((hsublist.map _).subset hb)⟩
  | anyType => exact ⟨hrequired, hrules⟩

end Constraint.Weakening

/-! ## The whole forest -/

/-- If nothing is found before then nothing is found after. -/
def Finding.StaysClean (fs fs' : List Finding) : Prop := fs = [] → fs' = []

theorem Finding.composes_staysClean : Composes StaysClean where
  refl _ := id
  trans h h' := h' ∘ h
  append h h' happend := by
    obtain ⟨hfs, hgs⟩ := List.append_eq_nil_iff.mp happend
    rw [h hfs, h' hgs, List.append_nil]

theorem Constraint.Weakening.inherits {c c' : Constraint} (h : Weakening c c')
    (children? : Option Children) :
    (Children.under children? c).Inherits r Finding.StaysClean (Children.under children? c') where
  id_eq := by
    rw [Children.id_under, Children.id_under, h.id_eq]
  wellFormed hwf := by
    match children? with
    | none => exact Node.wellFormed_leaf.mpr (h.isSome_type? (Node.wellFormed_leaf.mp hwf))
    | some (.fields members) => exact Node.wellFormed_fields.mpr (Node.wellFormed_fields.mp hwf)
    | some (.element item) => exact Node.wellFormed_element.mpr (Node.wellFormed_element.mp hwf)
  knows hknows call hcall := hknows call (Children.calls_under_subset h.calls_subset hcall)
  findings root path hclean := by
    have hbelow : (Plan.ofNode r (Children.under children? c)).below root path =
        (Plan.ofNode r (Children.under children? c')).below root path := by
      rcases children? with _ | ⟨members⟩ | ⟨item⟩ <;> rfl
    rw [Plan.findings_eq] at hclean
    split at hclean
    · cases hclean
    · next hsilent =>
        rw [Plan.findings_eq, h.wording?_eq_none hsilent, ← hbelow]
        exact hclean

theorem Node.Weakening.inherits {n n' : Node} (h : Weakening n n') :
    n.Inherits r Finding.StaysClean n' := by
  cases h with
  | constraint hc => exact hc.inherits _

theorem Schema.inherits_of_sublist {ns ns' : List Node} (h : ns'.Sublist ns) :
    Schema.Inherits r Finding.StaysClean ns ns' where
  wellFormed hwf :=
    ⟨⟨fun id hid => hwf.ids.isSegment id ((h.map Node.id).subset hid),
      hwf.ids.nodup.sublist (h.map Node.id)⟩, fun n hn => hwf.nodes n (h.subset hn)⟩
  knows hknows n hn := hknows n (h.subset hn)
  findings root parent hclean := by
    rw [Plan.memberFindings_ofNodes, List.flatMap_eq_nil_iff] at hclean ⊢
    exact fun n hn => hclean n (h.subset hn)

namespace Validator

/-- After any edits that ask for less a validator can still be built, and all
data that was valid is valid. -/
theorem isValid_of_weakenings {nodes nodes' : List Node}
    (h : Relation.ReflTransGen Schema.Weakening nodes nodes') {caller : Registry} {v : Validator}
    (hv : Validator.new nodes caller = .ok v) :
    ∃ v', Validator.new nodes' caller = .ok v' ∧
      ∀ data, v.isValid data = true → v'.isValid data = true := by
  have hinherits := Schema.Edited.inherits (r := Registry.builtin.merge caller)
    Finding.composes_staysClean (fun _ _ hn => hn.inherits)
    (fun _ _ hns => Schema.inherits_of_sublist hns) h
  obtain ⟨v', hv', hclean⟩ := hinherits.exists_validator hv
  refine ⟨v', hv', fun data hvalid => ?_⟩
  rw [isValid_iff] at hvalid ⊢
  exact hclean data hvalid

/-- The address book with no name asked for, contacts of any type, and in them no
rule for the kind and no address. -/
def slackBook : List Node :=
  [ Node.new "name" |>.typed .string,
    Node.new "contacts" |>.typed .any |>.withElement
      (Node.elementSchema.withFields [Node.new "kind" |>.typed .string |>.require (.flag true)]) ]

/-- A document that is valid against the address book. -/
def goodAddresses : Json :=
  .object [("contacts", .arr [.object [("address", .str "x"), ("kind", .str "email")]]),
    ("name", .str "Ada")]

theorem weakenings_slackBook : Relation.ReflTransGen Schema.Weakening addressBook slackBook := by
  have hname : Node.Weakening (Node.new "name" |>.typed .string |>.require (.flag true))
      (Node.new "name" |>.typed .string) := @Node.Weakening.constraint none _ _ .dropRequired
  have hcontacts (item : Node) :
      Node.Weakening (Node.new "contacts" |>.typed .array |>.withElement item)
        (Node.new "contacts" |>.typed .any |>.withElement item) :=
    @Node.Weakening.constraint (some (.element item)) _ _ .anyType
  have hkind (call : Call) :
      Node.Weakening (Node.new "kind" |>.typed .string |>.require (.flag true) |>.rule call)
        (Node.new "kind" |>.typed .string |>.require (.flag true)) :=
    @Node.Weakening.constraint none _ _ (.deleteRules (List.nil_sublist _))
  -- First the name, then below the contacts the rule, the address and the type.
  exact .head (@Schema.Edited.node _ _ [] addressBook.tail _ _ (.self hname))
    (.head (@Schema.Edited.node _ _ (slackBook.take 1) [] _ _
      (.item (@Node.Edited.member _ _ _ [] [_] _ _ (.self (hkind _)))))
    (.head (@Schema.Edited.node _ _ (slackBook.take 1) [] _ _
      (.item (@Node.Edited.siblings _ _ _ _ [_] (.cons_cons _ (List.nil_sublist _)))))
    (.single (@Schema.Edited.node _ _ (slackBook.take 1) [] _ _ (.self (hcontacts _))))))

theorem isValid_of_weakenings_slackBook :
    Relation.ReflTransGen Schema.Weakening addressBook slackBook ∧
    ∃ v v', Validator.new addressBook .empty = .ok v ∧ Validator.new slackBook .empty = .ok v' ∧
      v.isValid goodAddresses = true ∧ v'.isValid goodAddresses = true := by
  obtain ⟨v', hv', hvalid⟩ := @isValid_of_weakenings _ _ weakenings_slackBook .empty _ rfl
  exact ⟨weakenings_slackBook, _, v', rfl, hv', by decide, hvalid goodAddresses (by decide)⟩

end Validator

end ConstraintTree

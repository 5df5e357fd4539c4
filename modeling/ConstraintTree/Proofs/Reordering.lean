import ConstraintTree.Proofs.Edit
import ConstraintTree.Proofs.Topmost

/-!
# The order of siblings

A report is in the order of the schema, so siblings in another order make
another report, and a schema with several violations ends in another error.
That is all. A validator can be built of the one forest if it can be built of
the other, and the two report the same messages, in some order.

Nothing else could come of it: good ids are a property of the set of siblings,
and what a node finds does not depend on what was found before it. So a
permutation of siblings permutes what they find, and permutations of lists put
together are permutations of the whole (`Finding.composes_perm`).
-/

namespace ConstraintTree

/-- Siblings change their order, in one place of a forest. -/
def Schema.Reordering : List Node → List Node → Prop :=
  Schema.Edited (fun _ _ => False) List.Perm

/-! ## Back and forth -/

theorem Node.Edited.symm {n n' : Node} (h : Edited (fun _ _ => False) List.Perm n n') :
    Edited (fun _ _ => False) List.Perm n' n := by
  induction h with
  | self h => exact h.elim
  | siblings h => exact .siblings h.symm
  | member _ ih => exact .member ih
  | item _ ih => exact .item ih

instance Schema.Reordering.stdSymm : Std.Symm Schema.Reordering where
  symm _ _ h := by
    cases h with
    | siblings h => exact .siblings h.symm
    | node h => exact .node h.symm

/-! ## One list of siblings -/

theorem Finding.composes_perm : Composes List.Perm where
  refl := List.Perm.refl
  trans := List.Perm.trans
  append := List.Perm.append

theorem Schema.GoodIds.perm {ids ids' : List String} (h : GoodIds ids) (hperm : ids.Perm ids') :
    GoodIds ids' :=
  ⟨fun id hid => h.isSegment id (hperm.mem_iff.mpr hid), hperm.nodup_iff.mp h.nodup⟩

theorem Schema.inherits_of_perm {r : Registry} {ns ns' : List Node} (h : ns.Perm ns') :
    Schema.Inherits r List.Perm ns ns' where
  wellFormed hwf :=
    ⟨hwf.ids.perm (h.map Node.id), fun n hn => hwf.nodes n (h.mem_iff.mpr hn)⟩
  knows hknows n hn := hknows n (h.mem_iff.mpr hn)
  findings root parent := by
    rw [Plan.memberFindings_ofNodes, Plan.memberFindings_ofNodes]
    exact h.flatMap_right _

namespace Validator

theorem exists_perm_of_reorderings {nodes nodes' : List Node}
    (h : Relation.ReflTransGen Schema.Reordering nodes nodes') {caller : Registry} {v : Validator}
    (hv : Validator.new nodes caller = .ok v) :
    ∃ v', Validator.new nodes' caller = .ok v' ∧
      ∀ data, (v.findings data).Perm (v'.findings data) := by
  have hinherits := Schema.Edited.inherits (r := Registry.builtin.merge caller)
    Finding.composes_perm (fun _ _ hn => hn.elim) (fun _ _ hns => Schema.inherits_of_perm hns) h
  exact hinherits.exists_validator hv

/-- Whatever siblings change their order, a validator can be built before exactly
if it can be built after, and then both report the same messages, up to order. -/
theorem messages_perm_of_reorderings {nodes nodes' : List Node}
    (h : Relation.ReflTransGen Schema.Reordering nodes nodes') (caller : Registry) :
    ((∃ v, Validator.new nodes caller = .ok v) ↔ ∃ v, Validator.new nodes' caller = .ok v) ∧
    ∀ v v', Validator.new nodes caller = .ok v → Validator.new nodes' caller = .ok v' →
      ∀ data, (v.messages data).Perm (v'.messages data) ∧ v.isValid data = v'.isValid data := by
  refine ⟨⟨?_, ?_⟩, fun v v' hv hv' data => ?_⟩
  · rintro ⟨v, hv⟩
    obtain ⟨v', hv', -⟩ := exists_perm_of_reorderings h hv
    exact ⟨v', hv'⟩
  · rintro ⟨v', hv'⟩
    obtain ⟨v, hv, -⟩ := exists_perm_of_reorderings (symm h) hv'
    exact ⟨v, hv⟩
  · obtain ⟨u, hu, hperm⟩ := exists_perm_of_reorderings h hv
    obtain rfl : u = v' := Except.ok.inj (hu.symm.trans hv')
    constructor
    · rw [messages_eq_findings, messages_eq_findings]
      exact (hperm data).map Finding.message
    · rw [Bool.eq_iff_iff, isValid_iff, isValid_iff, ← List.length_eq_zero_iff,
        ← List.length_eq_zero_iff, (hperm data).length_eq]

/-- The address book from its end, and so are the parts of a contact. -/
def backwardBook : List Node :=
  [ Node.new "contacts" |>.typed .array |>.withElement
      (Node.elementSchema.withFields
        [ Node.new "address" |>.typed .any
            |>.require (.when ((Call.new "isNotEmpty").path "name")),
          Node.new "kind" |>.typed .string |>.require (.flag true)
            |>.rule ((Call.new "oneOf").target.literal
              (.arr [.str "email", .str "phone"])
              |>.withMessage "$prop must be email or phone") ]),
    Node.new "name" |>.typed .string |>.require (.flag true) ]

theorem reorderings_backwardBook :
    Relation.ReflTransGen Schema.Reordering addressBook backwardBook := by
  -- First the parts of a contact, below the contacts, then the roots.
  refine .tail (.single (@Schema.Edited.node _ _ (addressBook.take 1) [] _ _
    (.item (.siblings (List.Perm.swap _ _ []))))) (.siblings ?_)
  exact List.Perm.swap _ _ []

theorem messages_perm_of_reorderings_backwardBook :
    Relation.ReflTransGen Schema.Reordering addressBook backwardBook ∧
    ∃ v v', Validator.new addressBook .empty = .ok v ∧
      Validator.new backwardBook .empty = .ok v' ∧
      v.messages badAddresses =
        [⟨"name", "name is not of type string (got boolean)"⟩,
          ⟨"contacts.0.kind", "contacts.0.kind must be email or phone"⟩,
          ⟨"contacts.0.address", "contacts.0.address is required"⟩,
          ⟨"contacts.1.kind", "contacts.1.kind is required"⟩] ∧
      v'.messages badAddresses =
        [⟨"contacts.0.address", "contacts.0.address is required"⟩,
          ⟨"contacts.0.kind", "contacts.0.kind must be email or phone"⟩,
          ⟨"contacts.1.kind", "contacts.1.kind is required"⟩,
          ⟨"name", "name is not of type string (got boolean)"⟩] ∧
      (v.messages badAddresses).Perm (v'.messages badAddresses) := by
  have hall := messages_perm_of_reorderings reorderings_backwardBook .empty
  exact ⟨reorderings_backwardBook, _, _, rfl, rfl, rfl, rfl,
    (hall.2 _ _ rfl rfl badAddresses).1⟩

/-- With two violations, the order tells which one is the error. -/
example :
    Validator.new [Node.new "a.b", Node.new ""] .empty = .error (.separatorInId "a.b" "a.b") ∧
      Validator.new [Node.new "", Node.new "a.b"] .empty = .error (.missingId "") :=
  ⟨rfl, rfl⟩

end Validator

end ConstraintTree

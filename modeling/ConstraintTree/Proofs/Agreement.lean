import Mathlib.Logic.Relation
import ConstraintTree.Proofs.Rewriting
import ConstraintTree.Proofs.Topmost

/-!
# Only the functions that are called

Two registries may differ in any way. As long as they agree on the names that
the calls of a schema use, building ends in the same error with both, or in
validators that report the same.

For building this is plain, since the errors are about these names. For a report
more can be said. At each place a node consults some of its calls only: about a
blank value the condition of `required`, and about any other one the rules. Which
of the two it is, is not asked of a registry. So where two registries agree on the
calls that are consulted there is one report, whatever they do with other names, the
two predicates on blank values among them.
-/

namespace ConstraintTree

/-- Two registries that have the same function for a call, or none. -/
def Registry.Agrees (r r' : Registry) (call : Call) : Prop :=
  r.get? call.function = r'.get? call.function

/-- The calls of a node that count for a value. -/
def Constraint.consulted (c : Constraint) (value : Option Json) : List Call :=
  if isBlank value then Required.calls c.required? else c.rules

theorem Constraint.consulted_subset (c : Constraint) (value : Option Json) :
    c.consulted value ⊆ c.calls := by
  rw [consulted, calls_eq]
  split
  · exact List.subset_append_left _ _
  · exact List.subset_append_right _ _

/-- Whether the node of a place consults a call of some name there. -/
def Place.Consults (data : Json) (x : Place) (name : String) : Prop :=
  ∃ call ∈ x.node.label.consulted (data.get? x.path), call.function = name

variable {r r' : Registry}

/-! ## One node -/

theorem Bound.ofCall_eq_of_agrees {call : Call} (h : r.Agrees r' call) :
    ofCall r call = ofCall r' call := by
  rw [ofCall, ofCall, h]

theorem RequiredCheck.ofRequired?_eq_of_agrees {required? : Option Required}
    (h : ∀ call ∈ Required.calls required?, r.Agrees r' call) :
    ofRequired? r required? = ofRequired? r' required? := by
  match required? with
  | none => rfl
  | some (.flag false) => rfl
  | some (.flag true) => rfl
  | some (.message _) => rfl
  | some (.when call) =>
      rw [ofRequired?, ofRequired?, Bound.ofCall_eq_of_agrees (h call List.mem_cons_self)]

namespace Plan

variable {data : Json}

/-- What a node says of a value depends on the calls that are consulted only. -/
theorem wording?_eq_of_agrees {n : Node} {path : String}
    (h : ∀ call ∈ n.label.consulted (data.get? path), r.Agrees r' call) :
    (ofNode r n).wording? data path = (ofNode r' n).wording? data path := by
  rw [Constraint.consulted] at h
  refine wording?_congr (mismatch?_congr ?_ ?_ (fun k => ?_) _) ?_ (fun hblank => ?_)
    fun hblank => ?_
  · rw [declared?_ofNode, declared?_ofNode]
  · rw [expected_ofNode, expected_ofNode]
  · cases n <;> cases k <;> rfl
  · rw [declared?_ofNode, declared?_ofNode]
  · rw [if_pos hblank] at h
    rw [required?_ofNode, required?_ofNode, RequiredCheck.ofRequired?_eq_of_agrees h]
  · rw [if_neg (by simp [hblank])] at h
    rw [rules_ofNode, rules_ofNode,
      List.map_congr_left fun call hcall => Bound.ofCall_eq_of_agrees (h call hcall)]

/-! ## A whole run -/

theorem findings_eq_of_agrees {x : Place}
    (h : ∀ y, Relation.ReflTransGen (Place.Child data) x y →
      ∀ call ∈ y.node.label.consulted (data.get? y.path), r.Agrees r' call) :
    (ofNode r x.node).findings data x.path = (ofNode r' x.node).findings data x.path := by
  induction x using Place.induction data with
  | step x ih =>
      have hchild : ∀ y, Place.Child data x y →
          (ofNode r y.node).findings data y.path = (ofNode r' y.node).findings data y.path :=
        fun y hxy => ih y hxy fun z hyz => h z (.head hxy hyz)
      refine findings_eq_of_below (wording?_eq_of_agrees (h x .refl)) ?_
      obtain ⟨n, path⟩ := x
      cases n with
      | leaf c => rfl
      | fields c members =>
          rw [ofNode, ofNode, below, below, memberFindings_ofNodes, memberFindings_ofNodes]
          exact List.flatMap_congr fun m hm => hchild ⟨m, _⟩ (.member hm)
      | element c item =>
          rw [ofNode, ofNode, below, below]
          split
          · next xs hxs =>
              exact List.flatMap_congr fun i hi =>
                hchild ⟨item, _⟩ (.item hxs (List.mem_range.mp hi))
          · rfl

theorem memberFindings_eq_of_agrees {nodes : List Node}
    (h : ∀ x, Place.IsInstance data nodes x →
      ∀ call ∈ x.node.label.consulted (data.get? x.path), r.Agrees r' call) :
    memberFindings data "" (ofNodes r nodes) = memberFindings data "" (ofNodes r' nodes) := by
  rw [memberFindings_ofNodes, memberFindings_ofNodes]
  exact List.flatMap_congr fun n hn =>
    findings_eq_of_agrees (x := ⟨n, n.id⟩) fun y hy => h y ((Place.IsInstance.root hn).of_reach hy)

end Plan

/-! ## Building -/

theorem Registry.unknown_eq_of_agrees {calls : List Call}
    (h : ∀ call ∈ calls, r.Agrees r' call) (path : String) :
    r.unknown path calls = r'.unknown path calls := by
  have hfilter : calls.filter (fun call => !r.contains call.function) =
      calls.filter fun call => !r'.contains call.function :=
    List.filter_congr fun call hcall => by rw [contains_eq, contains_eq, h call hcall]
  rw [unknown, unknown, hfilter]

theorem Registry.unknownIn_eq_of_agrees {nodes : List Node}
    (h : ∀ n ∈ nodes, ∀ call ∈ n.calls, r.Agrees r' call) :
    r.unknownIn nodes = r'.unknownIn nodes := by
  rw [unknownIn, unknownIn]
  exact List.flatMap_congr fun x hx => unknown_eq_of_agrees (Schema.forall_calls_visits h hx) _

/-- A function that is put under a name makes no difference to other names. -/
theorem Place.agrees_register {data : Json} {x : Place} {name : String}
    (h : ¬ x.Consults data name) (caller : Registry) (f : Function) :
    ∀ call ∈ x.node.label.consulted (data.get? x.path),
      (Registry.builtin.merge caller).Agrees
        (Registry.builtin.merge (caller.register name f)) call :=
  fun call hcall =>
    (Registry.get?_merge_register _ caller f fun hname => h ⟨call, hcall, hname⟩).symm

namespace Validator

variable {nodes : List Node} {caller : Registry}

/-- A validator stays one when its caller has one more function. -/
theorem exists_new_register {v : Validator} (h : Validator.new nodes caller = .ok v)
    (name : String) (f : Function) :
    ∃ v', Validator.new nodes (caller.register name f) = .ok v' := by
  obtain ⟨hwf, hcalls⟩ := exists_new_eq_ok_iff.mp ⟨v, h⟩
  refine exists_new_eq_ok_iff.mpr ⟨hwf, fun n hn call hcall => ?_⟩
  by_cases hname : call.function = name
  · rw [Registry.Knows, Registry.get?_merge, Registry.get?_register, if_pos hname.symm]
    rfl
  · rw [Registry.Knows, Registry.get?_merge_register _ _ _ hname]
    exact hcalls n hn call hcall

theorem map_validate_eq_of_agrees {caller' : Registry}
    (h : ∀ n ∈ nodes, ∀ call ∈ n.calls,
      (Registry.builtin.merge caller).Agrees (Registry.builtin.merge caller') call) :
    (Validator.new nodes caller).map validate = (Validator.new nodes caller').map validate := by
  cases hs : Schema.new nodes with
  | error e => rw [new_eq_error_of_schema hs, new_eq_error_of_schema hs]
  | ok s =>
      rw [new_eq_firstErrorOr hs, new_eq_firstErrorOr hs, Registry.unknownIn_eq_of_agrees h]
      cases (Registry.builtin.merge caller').unknownIn nodes with
      | cons e es => rfl
      | nil =>
          -- The two validators keep their registries, which may differ, but not what they find.
          refine congrArg Except.ok (funext fun data => ?_)
          refine validate_eq_of_findings ?_
          exact Plan.memberFindings_eq_of_agrees fun x hx call hcall =>
            hx.forall_calls h call (Node.calls_label _ (Constraint.consulted_subset _ _ hcall))

/-- With registries that agree on the calls of a schema, building ends in the same
error or in validators that validate alike. A function that is put in place of
another one under a name changes nothing at a place where no call of that name is
consulted, whether the value there is blank or not, and it changes no other
function that is always there. -/
theorem validate_eq_of_agrees {caller' : Registry}
    (h : ∀ n ∈ nodes, ∀ call ∈ n.calls,
      (Registry.builtin.merge caller).Agrees (Registry.builtin.merge caller') call) :
    (Validator.new nodes caller).map validate = (Validator.new nodes caller').map validate ∧
    ∀ name f,
      (∀ v, Validator.new nodes caller = .ok v →
        ∃ v', Validator.new nodes (caller.register name f) = .ok v' ∧ ∀ data,
          (∀ x, Place.IsInstance data nodes x → ¬ x.Consults data name →
            ∀ w, x.Fails v.registry data w ↔ x.Fails v'.registry data w) ∧
          ((∀ x, Place.IsInstance data nodes x → ¬ x.Consults data name) →
            v.validate data = v'.validate data)) ∧
      ∀ other g, (other, g) ∈ Builtin.table → other ≠ name → caller.contains other = false →
        (Registry.builtin.merge (caller.register name f)).get? other =
          some fun args => .bool (g args) := by
  refine ⟨map_validate_eq_of_agrees h, fun name f => ⟨fun v hv => ?_, ?_⟩⟩
  · obtain ⟨v', hv'⟩ := exists_new_register hv name f
    refine ⟨v', hv', fun data => ⟨fun x hx hconsults w => ?_, fun hconsults => ?_⟩⟩
    · have hbuilt := new_ok hv
      have hbuilt' := new_ok hv'
      rw [Place.fails_iff hbuilt.wellFormed hbuilt.knows hx,
        Place.fails_iff hbuilt'.wellFormed hbuilt'.knows hx, hbuilt.registry_eq,
        hbuilt'.registry_eq, Plan.wording?_eq_of_agrees (Place.agrees_register hconsults caller f)]
    · refine validate_eq_of_findings ?_
      rw [findings_of_new hv, findings_of_new hv']
      exact Plan.memberFindings_eq_of_agrees fun x hx =>
        Place.agrees_register (hconsults x hx) caller f
  · intro other g hg hother hcaller
    rw [Registry.get?_merge_register _ _ _ hother]
    exact Registry.get?_builtin_merge hg hcaller

/-- A caller who takes nothing for empty and no two values for equal. -/
def contrary : Registry :=
  (Registry.empty.register "isEmpty" fun _ => .bool false).register "equals" fun _ => .bool false

/-- An empty name, and contacts with no kind, with a wrong one and with a good one. -/
def blankAddresses : Json :=
  .object [("contacts", .arr [.object [("kind", .str "")], .object [("kind", .str "fax")],
      .object [("kind", .str "email")]]),
    ("name", .str "")]

/-- A nickname that is asked to be empty if it is there. -/
def nickname : Node := Node.new "nickname" |>.typed .string |>.rule (.ofTarget "isEmpty" none)

theorem agrees_contrary {call : Call}
    (h : call.function ≠ "isEmpty" ∧ call.function ≠ "equals") :
    (Registry.builtin.merge .empty).Agrees (Registry.builtin.merge contrary) call := by
  rw [Registry.Agrees, contrary, Registry.get?_merge_register _ _ _ h.2,
    Registry.get?_merge_register _ _ _ h.1]

/-- In an empty document the rule for the nickname is not consulted. -/
theorem not_consults_nickname {x : Place} (h : Place.IsInstance (.object []) [nickname] x) :
    ¬ x.Consults (.object []) "isEmpty" := by
  have hroot : x = ⟨nickname, "nickname"⟩ := by
    induction h with
    | root hn => rw [List.mem_singleton.mp hn]; rfl
    | child _ hxy ih => subst ih; cases hxy
  rintro ⟨call, hcall, -⟩
  rw [hroot] at hcall
  cases hcall

theorem validate_eq_of_agrees_contrary :
    ((∀ n ∈ addressBook, ∀ call ∈ n.calls,
        (Registry.builtin.merge .empty).Agrees (Registry.builtin.merge contrary) call) ∧
      (Validator.new addressBook .empty).map validate =
        (Validator.new addressBook contrary).map validate ∧
      ∃ v, Validator.new addressBook contrary = .ok v ∧
        v.messages blankAddresses =
          [⟨"name", "name is required"⟩,
            ⟨"contacts.0.kind", "contacts.0.kind is required"⟩,
            ⟨"contacts.1.kind", "contacts.1.kind must be email or phone"⟩]) ∧
    ∃ v v', Validator.new [nickname] .empty = .ok v ∧
      Validator.new [nickname] (Registry.empty.register "isEmpty" fun _ => .bool true) = .ok v' ∧
      Place.IsInstance (.object []) [nickname] ⟨nickname, "nickname"⟩ ∧
      (∀ x, Place.IsInstance (.object []) [nickname] x → ¬ x.Consults (.object []) "isEmpty") ∧
      v.validate (.object []) = v'.validate (.object []) ∧
      v'.registry.get? "isNotEmpty" = some fun args => .bool (Builtin.isNotEmpty args) := by
  have hbook : ∀ n ∈ addressBook, ∀ call ∈ n.calls,
      call.function ≠ "isEmpty" ∧ call.function ≠ "equals" := by
    decide
  have hagrees : ∀ n ∈ addressBook, ∀ call ∈ n.calls,
      (Registry.builtin.merge .empty).Agrees (Registry.builtin.merge contrary) call :=
    fun n hn call hcall => agrees_contrary (hbook n hn call hcall)
  have hsame := (@validate_eq_of_agrees addressBook .empty contrary hagrees).1
  have hall := (@validate_eq_of_agrees [nickname] .empty .empty fun _ _ _ _ => rfl).2 "isEmpty"
    fun _ => .bool true
  obtain ⟨v', hv', hreport⟩ := hall.1 _ rfl
  have hconsults := fun x => @not_consults_nickname x
  refine ⟨⟨hagrees, hsame, _, rfl, rfl⟩, _, v', rfl, hv', .root List.mem_cons_self, hconsults,
    (hreport _).2 hconsults, ?_⟩
  rw [(new_ok hv').registry_eq]
  exact hall.2 "isNotEmpty" _ (by simp [Builtin.table]) (by decide) rfl

end Validator

end ConstraintTree

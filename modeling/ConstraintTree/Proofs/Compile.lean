import ConstraintTree.Validator.Basic
import ConstraintTree.Proofs.WellFormed

/-!
# What compiling gives

Compiling a node does two things at once. It checks, which may end in an
error, and it translates, which cannot: a node turns into a node of a plan,
label by label. `Plan.ofNode` is the translation on its own. It gives an
unknown name some function and a node without any type some type, and it does
not matter which, because a plan that compiled met neither.

So a validator that was built is known in full: its nodes are well formed, its
registry knows every call in them, and its plan is the translation of its
nodes. All that is proved about validators below starts from these three.
-/

namespace ConstraintTree

theorem bind_eq_ok {ε α β : Type} {x : Except ε α} {f : α → Except ε β}
    {b : β} (h : (x >>= f) = .ok b) : ∃ a, x = .ok a ∧ f a = .ok b := by
  cases x with
  | error e => cases h
  | ok a => exact ⟨a, rfl, h⟩

/-! ## The calls of a node -/

/-- The calls of a constraint, that of its required check first. -/
def Constraint.calls (c : Constraint) : List Call :=
  match c.required? with
  | some (.when call) => call :: c.rules
  | _ => c.rules

theorem Constraint.mem_calls_iff {c : Constraint} {call : Call} :
    call ∈ c.calls ↔ c.required? = some (.when call) ∨ call ∈ c.rules := by
  rw [Constraint.calls]
  split
  · next call' heq =>
      rw [heq, List.mem_cons]
      exact or_congr_left ⟨fun h => by rw [h], fun h => by cases h; rfl⟩
  · next hother => exact ⟨.inr, fun h => h.resolve_left (hother call)⟩

namespace Node

mutual

/-- The calls in a node and below, from top to bottom. -/
def calls : Node → List Call
  | .leaf c => c.calls
  | .fields c members => c.calls ++ callsOfAll members
  | .element c item => c.calls ++ calls item

/-- The calls in siblings and below, one node after another. -/
def callsOfAll : List Node → List Call
  | [] => []
  | n :: ns => calls n ++ callsOfAll ns

end

theorem callsOfAll_eq_flatMap (ns : List Node) :
    callsOfAll ns = ns.flatMap calls := by
  induction ns with
  | nil => rfl
  | cons n ns ih => rw [callsOfAll, ih, List.flatMap_cons]

theorem calls_label (n : Node) : n.label.calls ⊆ n.calls := by
  cases n with
  | leaf c => exact fun _ h => h
  | fields c members => exact fun _ h => List.mem_append_left _ h
  | element c item => exact fun _ h => List.mem_append_left _ h

theorem calls_member {c : Constraint} {members : List Node} {m : Node}
    (hm : m ∈ members) : m.calls ⊆ calls (.fields c members) := by
  intro call hcall
  rw [calls, callsOfAll_eq_flatMap]
  exact List.mem_append_right _ (List.mem_flatMap.mpr ⟨m, hm, hcall⟩)

theorem calls_item {c : Constraint} {item : Node} :
    item.calls ⊆ calls (.element c item) :=
  fun _ h => List.mem_append_right _ h

end Node

/-- There is a function for a call. -/
def Registry.Knows (r : Registry) (call : Call) : Prop :=
  (r.get? call.function).isSome

/-! ## The translation -/

/-- A call with its function, or with any function if it has none. -/
def Bound.ofCall (r : Registry) (call : Call) : Bound :=
  ⟨call, (r.get? call.function).getD default⟩

/-- What becomes of a `required`. One that is false asks for nothing. -/
def RequiredCheck.ofRequired? (r : Registry) : Option Required → Option RequiredCheck
  | none => none
  | some (.flag false) => none
  | some (.flag true) => some .always
  | some (.message template) => some (.message template)
  | some (.when call) => some (.when (.ofCall r call))

/-- What is kept of a node for running it. -/
def Check.ofNode (r : Registry) (n : Node) : Check where
  id := n.label.id
  declared? := n.label.type?
  expected := n.effectiveType?.getD .any
  required? := RequiredCheck.ofRequired? r n.label.required?
  rules := n.label.rules.map (Bound.ofCall r)

namespace Plan

mutual

/-- The plan of a node, nothing checked. -/
def ofNode (r : Registry) : Node → Plan
  | .leaf c => .leaf (.ofNode r (.leaf c))
  | .fields c members =>
    .fields (.ofNode r (.fields c members)) (ofNodes r members)
  | .element c item => .element (.ofNode r (.element c item)) (ofNode r item)

/-- The plans of siblings, nothing checked. -/
def ofNodes (r : Registry) : List Node → List Plan
  | [] => []
  | n :: ns => ofNode r n :: ofNodes r ns

end

@[simp] theorem label_ofNode (r : Registry) (n : Node) :
    (ofNode r n).label = .ofNode r n := by
  cases n <;> rfl

variable (r : Registry) (n : Node)

@[simp] theorem id_ofNode : (ofNode r n).label.id = n.id := by
  rw [label_ofNode]; rfl

@[simp] theorem declared?_ofNode :
    (ofNode r n).label.declared? = n.label.type? := by
  rw [label_ofNode]; rfl

@[simp] theorem expected_ofNode :
    (ofNode r n).label.expected = n.effectiveType?.getD .any := by
  rw [label_ofNode]; rfl

@[simp] theorem required?_ofNode :
    (ofNode r n).label.required? =
      RequiredCheck.ofRequired? r n.label.required? := by
  rw [label_ofNode]; rfl

@[simp] theorem rules_ofNode :
    (ofNode r n).label.rules = n.label.rules.map (Bound.ofCall r) := by
  rw [label_ofNode]; rfl

end Plan

/-! ## Binding -/

namespace Bound

theorem new_ok {r : Registry} {path : String} {call : Call} {b : Bound}
    (h : Bound.new r path call = .ok b) : b = ofCall r call ∧ r.Knows call := by
  rw [Bound.new] at h
  split at h
  · next f hf =>
      cases h
      exact ⟨by rw [ofCall, hf]; rfl, by rw [Registry.Knows, hf]; rfl⟩
  · cases h

theorem newAll_ok {r : Registry} {path : String} {calls : List Call} {bs : List Bound}
    (h : calls.mapM (Bound.new r path) = .ok bs) :
    bs = calls.map (ofCall r) ∧ ∀ call ∈ calls, r.Knows call := by
  induction calls generalizing bs with
  | nil =>
      cases h
      exact ⟨rfl, by simp⟩
  | cons call calls ih =>
      rw [List.mapM_cons] at h
      obtain ⟨b, hb, h⟩ := bind_eq_ok h
      obtain ⟨bs', hbs, h⟩ := bind_eq_ok h
      cases h
      obtain ⟨rfl, hcall⟩ := new_ok hb
      obtain ⟨rfl, hcalls⟩ := ih hbs
      exact ⟨rfl, List.forall_mem_cons.mpr ⟨hcall, hcalls⟩⟩

theorem resolve_ofCall {r : Registry} {call : Call} (h : r.Knows call)
    (root : Json) (path : String) :
    r.resolve call root path = .ok ((ofCall r call).evaluate root path) := by
  obtain ⟨f, hf⟩ := Option.isSome_iff_exists.mp h
  rw [Registry.resolve, ofCall, evaluate, hf]
  rfl

end Bound

theorem RequiredCheck.new_ok {r : Registry} {path : String}
    {required? : Option Required} {check? : Option RequiredCheck}
    (h : RequiredCheck.new r path required? = .ok check?) :
    check? = ofRequired? r required? ∧
      ∀ call, required? = some (.when call) → r.Knows call := by
  match required? with
  | none => cases h; exact ⟨rfl, by simp⟩
  | some (.flag false) => cases h; exact ⟨rfl, by simp⟩
  | some (.flag true) => cases h; exact ⟨rfl, by simp⟩
  | some (.message _) => cases h; exact ⟨rfl, by simp⟩
  | some (.when call) =>
      rw [RequiredCheck.new] at h
      obtain ⟨b, hb, h⟩ := bind_eq_ok h
      cases h
      obtain ⟨rfl, hcall⟩ := Bound.new_ok hb
      refine ⟨rfl, fun call' heq => ?_⟩
      cases heq
      exact hcall

theorem Check.new_ok {r : Registry} {path : String} {n : Node} {check : Check}
    (h : Check.new r path n.label n.effectiveType? = .ok check) :
    check = .ofNode r n ∧ ∀ call ∈ n.label.calls, r.Knows call := by
  unfold Check.new at h
  cases heff : n.effectiveType? with
  | none => rw [heff] at h; cases h
  | some t =>
      rw [heff] at h
      obtain ⟨_, ht, h⟩ := bind_eq_ok h
      cases ht
      obtain ⟨required?, hrequired, h⟩ := bind_eq_ok h
      obtain ⟨rules, hrules, h⟩ := bind_eq_ok h
      cases h
      obtain ⟨rfl, hwhen⟩ := RequiredCheck.new_ok hrequired
      obtain ⟨rfl, hcalls⟩ := Bound.newAll_ok hrules
      refine ⟨by rw [Check.ofNode, heff]; rfl, fun call hcall => ?_⟩
      rcases Constraint.mem_calls_iff.mp hcall with hcall | hcall
      · exact hwhen call hcall
      · exact hcalls call hcall

namespace Plan

/-! ## Compiling -/

theorem compileAll_ok {r : Registry} {parent : String} {ns : List Node}
    {ps : List Plan}
    (hnode : ∀ n ∈ ns, ∀ path p, compile r path n = .ok p →
      p = ofNode r n ∧ ∀ call ∈ n.calls, r.Knows call)
    (h : compileAll r parent ns = .ok ps) :
    ps = ofNodes r ns ∧ ∀ call ∈ Node.callsOfAll ns, r.Knows call := by
  induction ns generalizing ps with
  | nil =>
      cases h
      exact ⟨rfl, by simp [Node.callsOfAll]⟩
  | cons n ns ih =>
      rw [compileAll] at h
      obtain ⟨p, hp, h⟩ := bind_eq_ok h
      obtain ⟨ps', hps, h⟩ := bind_eq_ok h
      cases h
      obtain ⟨rfl, hn⟩ := hnode n List.mem_cons_self _ _ hp
      obtain ⟨rfl, hns⟩ := ih (fun m hm => hnode m (List.mem_cons_of_mem n hm)) hps
      refine ⟨rfl, fun call hcall => ?_⟩
      rw [Node.callsOfAll] at hcall
      rcases List.mem_append.mp hcall with hcall | hcall
      · exact hn call hcall
      · exact hns call hcall

theorem compile_ok {r : Registry} (n : Node) :
    ∀ path p, compile r path n = .ok p →
      p = ofNode r n ∧ ∀ call ∈ n.calls, r.Knows call := by
  induction n using Tree.induction with
  | leaf c =>
      intro path p h
      rw [compile] at h
      obtain ⟨check, hcheck, h⟩ := bind_eq_ok h
      cases h
      obtain ⟨rfl, hcalls⟩ := Check.new_ok (n := .leaf c) hcheck
      exact ⟨rfl, hcalls⟩
  | fields c members ih =>
      intro path p h
      rw [compile] at h
      obtain ⟨check, hcheck, h⟩ := bind_eq_ok h
      obtain ⟨ps, hps, h⟩ := bind_eq_ok h
      cases h
      obtain ⟨rfl, hcalls⟩ := Check.new_ok (n := .fields c members) hcheck
      obtain ⟨rfl, hmembers⟩ := compileAll_ok ih hps
      refine ⟨rfl, fun call hcall => ?_⟩
      rcases List.mem_append.mp hcall with hcall | hcall
      · exact hcalls call hcall
      · exact hmembers call hcall
  | element c item ih =>
      intro path p h
      rw [compile] at h
      obtain ⟨check, hcheck, h⟩ := bind_eq_ok h
      obtain ⟨p', hp, h⟩ := bind_eq_ok h
      cases h
      obtain ⟨rfl, hcalls⟩ := Check.new_ok (n := .element c item) hcheck
      obtain ⟨rfl, hitem⟩ := ih _ _ hp
      refine ⟨rfl, fun call hcall => ?_⟩
      rcases List.mem_append.mp hcall with hcall | hcall
      · exact hcalls call hcall
      · exact hitem call hcall

/-! ## A run, node by node -/

/-- What is found below a node that has nothing to say itself. -/
def below (root : Json) (path : String) : Plan → List Finding
  | .leaf _ => []
  | .fields _ members => memberFindings root path members
  | .element _ item =>
    match root.get? path with
    | some (.arr xs) =>
      (List.range xs.length).flatMap fun i => findings root (Path.item path i) item
    | _ => []

theorem findings_eq (root : Json) (path : String) (p : Plan) :
    p.findings root path =
      match p.wording? root path with
      | some w => [⟨path, w⟩]
      | none => p.below root path := by
  cases p with
  | leaf => rw [findings]; rfl
  | fields => rw [findings]; rfl
  | element => rw [findings]; rfl

theorem memberFindings_ofNodes (r : Registry) (root : Json) (parent : String)
    (ns : List Node) :
    memberFindings root parent (ofNodes r ns) =
      ns.flatMap fun n => findings root (Path.join parent n.id) (ofNode r n) := by
  induction ns with
  | nil => rfl
  | cons n ns ih =>
      rw [ofNodes, memberFindings, ih, id_ofNode, List.flatMap_cons]

end Plan

namespace Validator

/-- The messages that validating ends with. -/
def messages (v : Validator) (data : Json) : List Message :=
  match v.validate data with
  | .ok () => []
  | .error report => report.messages

theorem messages_eq_findings (v : Validator) (data : Json) :
    v.messages data = (v.findings data).map Finding.message := by
  rw [messages, validate, Report.toExcept, Report.isEmpty, report]
  cases v.findings data <;> rfl

/-- What is known of a validator that was built. -/
structure BuiltFrom (v : Validator) (nodes : List Node) (caller : Registry) :
    Prop where
  nodes_eq : v.nodes = nodes
  registry_eq : v.registry = Registry.builtin.merge caller
  wellFormed : Schema.WellFormed nodes
  knows : ∀ n ∈ nodes, ∀ call ∈ n.calls, v.registry.Knows call
  plan_eq : v.plan = Plan.ofNodes v.registry nodes

theorem new_ok {nodes : List Node} {caller : Registry} {v : Validator}
    (h : Validator.new nodes caller = .ok v) : v.BuiltFrom nodes caller := by
  rw [Validator.new] at h
  obtain ⟨s, hs, h⟩ := bind_eq_ok h
  obtain ⟨ps, hps, h⟩ := bind_eq_ok h
  cases h
  obtain ⟨rfl, hwf⟩ := Schema.new_ok hs
  obtain ⟨rfl, hcalls⟩ :=
    Plan.compileAll_ok (fun n _ => Plan.compile_ok n) hps
  refine ⟨rfl, rfl, hwf, ?_, rfl⟩
  intro n hn call hcall
  rw [Node.callsOfAll_eq_flatMap] at hcalls
  exact hcalls call (List.mem_flatMap.mpr ⟨n, hn, hcall⟩)

theorem BuiltFrom.findings_eq {v : Validator} {nodes : List Node}
    {caller : Registry} (hv : v.BuiltFrom nodes caller) (data : Json) :
    v.findings data =
      Plan.memberFindings data "" (Plan.ofNodes v.registry nodes) := by
  rw [findings, hv.plan_eq]

theorem findings_of_new {nodes : List Node} {caller : Registry} {v : Validator}
    (h : Validator.new nodes caller = .ok v) (data : Json) :
    v.findings data =
      Plan.memberFindings data "" (Plan.ofNodes (Registry.builtin.merge caller) nodes) := by
  rw [(new_ok h).findings_eq, (new_ok h).registry_eq]

theorem validate_eq_of_findings {v v' : Validator} {data : Json}
    (h : v.findings data = v'.findings data) : v.validate data = v'.validate data := by
  rw [validate, validate, report, report, h]

end Validator

/-! An address book has a name, and contacts that each have a kind and, since
the book has a name, an address. It is the running example for what is said of
validators that were built. -/

/-- A name, and contacts, each of a kind and with an address if there is a name. -/
def addressBook : List Node :=
  [ Node.new "name" |>.typed .string |>.require (.flag true),
    Node.new "contacts" |>.typed .array |>.withElement
      (Node.elementSchema.withFields
        [ Node.new "kind" |>.typed .string |>.require (.flag true)
            |>.rule ((Call.new "oneOf").target.literal
              (.arr [.str "email", .str "phone"])
              |>.withMessage "$prop must be email or phone"),
          Node.new "address" |>.typed .any
            |>.require (.when ((Call.new "isNotEmpty").path "name")) ]) ]

/-- A book with a wrong kind in one contact and no kind in the other. -/
def addresses : Json :=
  .object [("contacts", .arr [.object [("address", .str "x"), ("kind", .str "fax")],
      .object [("address", .str "y")]]),
    ("name", .str "Ada")]

/-- A name that is no text, and two contacts that lack something. -/
def badAddresses : Json :=
  .object [("contacts", .arr [.object [("kind", .str "fax")], .object [("address", .str "x")]]),
    ("name", .bool true)]

end ConstraintTree

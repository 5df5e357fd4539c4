import ConstraintTree.Proofs.Compile

/-!
# The plan against the schema itself

A validator runs its plan. There is a plainer way to say what it should find:
walk the nodes as they were given, work out at each value what the node asks
of it, and look every function up by its name when it is called. That walk is
the `Interpreter` below. It knows nothing of plans, it may stop at a name
without a function, and it is the meaning that schemas have.

The two agree on every validator that was built. The plan answers the same
questions earlier: the type to check against is worked out per node, a
`required` that asks for nothing is dropped and the names are bound. Each of
these is one lemma about one node. The walk over the nodes is then the same on
both sides, and since every call is known the interpreter never stops.
-/

namespace ConstraintTree

namespace Interpreter

/-- Whether a value may stand at a node. Children let an object pass, an item node also an
array, and anything else has to be of the declared type. -/
def typeFits (n : Node) (value : Option Json) : Bool :=
  let actual := Kind.of value
  n.label.type? == some .any
    || value.isNone
    || (match n.children? with
      | none => false
      | some (.fields _) => actual == .object
      | some (.element _) => actual == .object || actual == .array)
    || n.label.type?.any (·.name == actual.name)

variable (r : Registry) (root : Json)

/-- What is said about a blank value. -/
def requiredStep (path : String) :
    Option Required → Except ConfigurationError (Option Wording)
  | none => .ok none
  | some (.flag false) => .ok none
  | some (.flag true) => .ok (some ⟨none, .required⟩)
  | some (.message template) => .ok (some ⟨some template, .required⟩)
  | some (.when call) => do
    let outcome ← r.resolve call root path
    if outcome.isTruthy then
      return some ⟨call.message? <|> outcome.text?, .required⟩
    else return none

/-- What is said about a value that is not blank: the first rule that does not
hold speaks, and the later ones are not tried. -/
def rulesStep (path : String) : List Call → Except ConfigurationError (Option Wording)
  | [] => .ok none
  | call :: calls => do
    let outcome ← r.resolve call root path
    if outcome.isTruthy then rulesStep path calls
    else return some ⟨call.message?, .rule call.function⟩

/-- What a node says about the value at a path: the type comes first, and then the required
check or the rules. -/
def check (path : String) (n : Node) : Except ConfigurationError (Option Wording) :=
  let value := root.get? path
  if typeFits n value then
    if isBlank value then requiredStep r root path n.label.required?
    else rulesStep r root path n.label.rules
  else .ok (some ⟨none, .typeMismatch (n.label.type?.getD .object) (Kind.of value)⟩)

mutual

/-- The messages of a node at `path` and, if it has none itself, of what is
below it. -/
def visit (path : String) : Node → Except ConfigurationError (List Message)
  | .leaf c => do
    match ← check r root path (.leaf c) with
    | some w => return [⟨path, w.text path⟩]
    | none => return []
  | .fields c members => do
    match ← check r root path (.fields c members) with
    | some w => return [⟨path, w.text path⟩]
    | none => visitAll path members
  | .element c item => do
    match ← check r root path (.element c item) with
    | some w => return [⟨path, w.text path⟩]
    | none =>
      match root.get? path with
      | some (.arr xs) =>
        let found ← (List.range xs.length).mapM fun i => visit (Path.item path i) item
        return found.flatten
      | _ => return []

/-- The messages of members under a path, one node after another. -/
def visitAll (parent : String) : List Node → Except ConfigurationError (List Message)
  | [] => .ok []
  | n :: ns => do
    let first ← visit (Path.join parent n.id) n
    let rest ← visitAll parent ns
    return first ++ rest

end

/-- The messages of a forest about the whole document. -/
def run (nodes : List Node) : Except ConfigurationError (List Message) :=
  visitAll r root "" nodes

end Interpreter

/-! ## One node -/

theorem DataType.accepts_eq (t : DataType) (k : Kind) :
    t.accepts k = (t == .any || t.name == k.name) := by
  cases t <;> cases k <;> rfl

theorem Node.effectiveType?_of_declared {n : Node} {t : DataType}
    (h : n.label.type? = some t) : n.effectiveType? = some t := by
  unfold effectiveType?
  rw [h]
  rfl

namespace Plan

theorem childrenAccept_ofNode (r : Registry) (n : Node) (k : Kind) :
    (ofNode r n).childrenAccept k =
      match n.children? with
      | none => false
      | some (.fields _) => k == .object
      | some (.element _) => k == .object || k == .array := by
  cases n <;> cases k <;> rfl

/-- The type to check against was worked out beforehand, and it lets the same
values pass. Where a type is declared both sides ask the same question. Where
none is, the children imply one, and it is a type that the interpreter lets
pass on account of the children. -/
theorem mismatch?_ofNode (r : Registry) {n : Node} (h : n.WellFormed)
    (value : Option Json) :
    (ofNode r n).mismatch? value =
      if Interpreter.typeFits n value then none else some (Kind.of value) := by
  rw [mismatch?, declared?_ofNode, expected_ofNode, childrenAccept_ofNode,
    DataType.accepts_eq, Interpreter.typeFits]
  cases ht : n.label.type? with
  | some t =>
      rw [Node.effectiveType?_of_declared ht]
      by_cases hany : t = .any
      · simp [hany]
      · cases hv : value.isNone <;> simp [hany]
  | none =>
      cases h with
      | leaf h => cases (ht ▸ h)
      | @fields c members =>
          have heff : Node.effectiveType? (.fields c members) = some .object := by
            unfold Node.effectiveType?
            rw [ht]
            rfl
          rw [heff, Node.children?]
          cases value with
          | none => rfl
          | some v => cases v <;> rfl
      | @element c item =>
          have heff : Node.effectiveType? (.element c item) = some .array := by
            unfold Node.effectiveType?
            rw [ht]
            rfl
          rw [heff, Node.children?]
          cases value with
          | none => rfl
          | some v => cases v <;> rfl

theorem requiredStep_eq {r : Registry} {required? : Option Required}
    (h : ∀ call, required? = some (.when call) → r.Knows call) (root : Json)
    (path : String) :
    Interpreter.requiredStep r root path required? =
      .ok ((RequiredCheck.ofRequired? r required?).bind (·.wording? root path)) := by
  match required? with
  | none => rfl
  | some (.flag false) => rfl
  | some (.flag true) => rfl
  | some (.message _) => rfl
  | some (.when call) =>
      rw [Interpreter.requiredStep, Bound.resolve_ofCall (h call rfl)]
      -- The sequence has succeeded so far, so it is its second step.
      show (if ((Bound.ofCall r call).evaluate root path).isTruthy then _ else _) = _
      rw [RequiredCheck.ofRequired?, Option.bind_some, RequiredCheck.wording?]
      split <;> rfl

theorem rulesStep_eq {r : Registry} {rules : List Call}
    (h : ∀ call ∈ rules, r.Knows call) (root : Json) (path : String) :
    Interpreter.rulesStep r root path rules =
      .ok (brokenRule? (rules.map (Bound.ofCall r)) root path) := by
  induction rules with
  | nil => rfl
  | cons call rules ih =>
      rw [Interpreter.rulesStep, Bound.resolve_ofCall (h call List.mem_cons_self)]
      show (if ((Bound.ofCall r call).evaluate root path).isTruthy then _ else _) = _
      rw [brokenRule?, List.map_cons, List.find?_cons]
      cases htruthy : ((Bound.ofCall r call).evaluate root path).isTruthy with
      | true =>
          rw [if_pos rfl, ih fun c hc => h c (List.mem_cons_of_mem call hc)]
          rfl
      | false => rfl

/-- A node of the plan says what the interpreter says of the node. -/
theorem check_eq {r : Registry} {n : Node} (hwf : n.WellFormed)
    (h : ∀ call ∈ n.label.calls, r.Knows call) (root : Json) (path : String) :
    Interpreter.check r root path n = .ok ((ofNode r n).wording? root path) := by
  have hwhen : ∀ call, n.label.required? = some (.when call) → r.Knows call :=
    fun call hcall => h call (Constraint.mem_calls_iff.mpr (.inl hcall))
  have hrules : ∀ call ∈ n.label.rules, r.Knows call :=
    fun call hcall => h call (Constraint.mem_calls_iff.mpr (.inr hcall))
  rw [Interpreter.check, wording?, mismatch?_ofNode r hwf, required?_ofNode,
    rules_ofNode, declared?_ofNode, requiredStep_eq hwhen, rulesStep_eq hrules]
  cases Interpreter.typeFits n (root.get? path) with
  | false => rfl
  | true => cases isBlank (root.get? path) <;> rfl

/-! ## The walk

Both walks go over the same nodes in the same order, one in a list of findings
and one in a sequence that may fail. Where every step of the sequence succeeds
the two are the same list. -/

end Plan

namespace Interpreter

theorem mapM_eq_ok {ε α β : Type} {f : α → Except ε β} {g : α → β} {xs : List α}
    (h : ∀ x ∈ xs, f x = .ok (g x)) : xs.mapM f = .ok (xs.map g) := by
  induction xs with
  | nil => rfl
  | cons x xs ih =>
      rw [List.mapM_cons, h x List.mem_cons_self,
        ih fun y hy => h y (List.mem_cons_of_mem x hy)]
      rfl

theorem visitAll_eq {r : Registry} {root : Json} {ns : List Node}
    (hnode : ∀ n ∈ ns, ∀ path, visit r root path n =
      .ok ((Plan.findings root path (Plan.ofNode r n)).map Finding.message))
    (parent : String) :
    visitAll r root parent ns =
      .ok ((Plan.memberFindings root parent (Plan.ofNodes r ns)).map
        Finding.message) := by
  induction ns with
  | nil => rfl
  | cons n ns ih =>
      rw [visitAll, hnode n List.mem_cons_self,
        ih fun m hm => hnode m (List.mem_cons_of_mem n hm), Plan.ofNodes,
        Plan.memberFindings, Plan.id_ofNode, List.map_append]
      rfl

theorem visitItems_eq {r : Registry} {root : Json} {item : Node}
    (hitem : ∀ path, visit r root path item =
      .ok ((Plan.findings root path (Plan.ofNode r item)).map Finding.message))
    (length : Nat) (path : String) :
    (do
      let found ← (List.range length).mapM fun i => visit r root (Path.item path i) item
      return found.flatten) =
      Except.ok (((List.range length).flatMap fun i =>
        Plan.findings root (Path.item path i) (Plan.ofNode r item)).map
          Finding.message) := by
  rw [mapM_eq_ok fun i _ => hitem (Path.item path i), List.map_flatMap,
    List.flatMap_def]
  rfl

theorem visit_eq {r : Registry} (root : Json) {n : Node} (hwf : n.WellFormed)
    (hcalls : ∀ call ∈ n.calls, r.Knows call) :
    ∀ path, visit r root path n =
      .ok ((Plan.findings root path (Plan.ofNode r n)).map Finding.message) := by
  induction n using Tree.induction with
  | leaf c =>
      intro path
      rw [visit, Plan.check_eq hwf hcalls, Plan.ofNode, Plan.findings]
      cases Plan.wording? (.leaf (.ofNode r (.leaf c))) root path <;> rfl
  | fields c members ih =>
      intro path
      have hlabel := fun call hcall =>
        hcalls call (Node.calls_label (.fields c members) hcall)
      have hmembers := fun m hm =>
        ih m hm ((Node.wellFormed_fields.mp hwf).2 m hm) fun call hcall =>
          hcalls call (Node.calls_member hm hcall)
      rw [visit, Plan.check_eq hwf hlabel, visitAll_eq hmembers path, Plan.ofNode,
        Plan.findings]
      cases Plan.wording? (.fields (.ofNode r (.fields c members))
        (Plan.ofNodes r members)) root path <;> rfl
  | element c item ih =>
      intro path
      have hlabel := fun call hcall =>
        hcalls call (Node.calls_label (.element c item) hcall)
      have hitem := ih (Node.wellFormed_element.mp hwf) fun call hcall =>
        hcalls call (Node.calls_item hcall)
      rw [visit, Plan.check_eq hwf hlabel, Plan.ofNode, Plan.findings]
      cases Plan.wording? (.element (.ofNode r (.element c item))
        (Plan.ofNode r item)) root path with
      | some w => rfl
      | none =>
          cases root.get? path with
          | none => rfl
          | some value =>
              cases value with
              | arr xs => exact visitItems_eq hitem xs.length path
              | null | bool | num | str | obj => rfl

/-- A validator that was built reports, for any data, what the interpreter
finds when it walks the nodes of the validator and looks every function up in
the registry of the validator. In particular no name is ever unknown to it. -/
theorem run_eq_messages {nodes : List Node} {caller : Registry} {v : Validator}
    (h : Validator.new nodes caller = .ok v) (data : Json) :
    run v.registry data v.nodes = .ok (v.messages data) := by
  have hv := Validator.new_ok h
  rw [run, hv.nodes_eq, Validator.messages_eq_findings, hv.findings_eq]
  exact visitAll_eq
    (fun n hn => visit_eq data (hv.wellFormed.nodes n hn) (hv.knows n hn)) ""

theorem run_eq_messages_addressBook :
    ∃ v, Validator.new addressBook .empty = .ok v ∧
      run v.registry addresses v.nodes = .ok (v.messages addresses) ∧
      v.messages addresses =
        [⟨"contacts.0.kind", "contacts.0.kind must be email or phone"⟩,
          ⟨"contacts.1.kind", "contacts.1.kind is required"⟩] :=
  ⟨_, rfl, @run_eq_messages addressBook .empty _ rfl addresses, rfl⟩

end Interpreter

end ConstraintTree

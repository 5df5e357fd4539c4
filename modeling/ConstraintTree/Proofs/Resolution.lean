import ConstraintTree.Proofs.Compile
import ConstraintTree.Proofs.FirstViolation
import ConstraintTree.Proofs.Registry

/-!
# Which name is told to be unknown

Building a validator goes over the schema twice. The first time it looks for
violations, which `FirstViolation` is about, and only a schema without any is
compiled. Compiling is a second walk, with its own paths and its own errors,
and what it does is known if it is known which errors it can end in.

They are listed here in the order of the visits of the first walk: at each visit
the calls of the node that have no function, `required` before the rules. This
list says all there is to say. Compiling ends in its head, and if it is empty
then it ends in the translation of the node (`compile_eq`). Every step of the
proof is of the same kind, since a sequence of things that end in the head of
a list each ends in the head of all these lists together (`firstErrorOr_bind`).

That a node without a type and without children is an error of compiling too
plays no part: such a node is a violation, and there is none.
-/

namespace ConstraintTree

/-- The first of some errors, or else a result. -/
def firstErrorOr {ε α : Type} (errors : List ε) (result : α) : Except ε α :=
  match errors with
  | e :: _ => .error e
  | [] => .ok result

section

variable {ε α β : Type}

theorem firstErrorOr_bind {es fs : List ε} {a : α} {b : β} {f : α → Except ε β}
    (h : f a = firstErrorOr fs b) :
    (firstErrorOr es a >>= f) = firstErrorOr (es ++ fs) b := by
  cases es with
  | nil => exact h
  | cons e es => rfl

theorem firstErrorOr_bind_pure {es : List ε} {a : α} (f : α → β) :
    (firstErrorOr es a >>= fun x => pure (f x)) = firstErrorOr es (f a) := by
  cases es <;> rfl

theorem firstErrorOr_eq_error_iff {es : List ε} {a : α} {e : ε} :
    firstErrorOr es a = .error e ↔ es.head? = some e := by
  cases es <;> simp [firstErrorOr]

theorem exists_firstErrorOr_eq_ok_iff {es : List ε} {a : α} :
    (∃ b, firstErrorOr es a = .ok b) ↔ es = [] := by
  cases es <;> simp [firstErrorOr]

end

namespace Registry

/-- The errors for the calls, in a node at `path`, that have no function. -/
def unknown (r : Registry) (path : String) (calls : List Call) : List ConfigurationError :=
  (calls.filter fun call => !r.contains call.function).map fun call =>
    .unknownFunction call.function path

theorem unknown_append (r : Registry) (path : String) (as bs : List Call) :
    r.unknown path (as ++ bs) = r.unknown path as ++ r.unknown path bs := by
  rw [unknown, List.filter_append, List.map_append]
  rfl

theorem unknown_eq_nil_iff {r : Registry} {path : String} {calls : List Call} :
    r.unknown path calls = [] ↔ ∀ call ∈ calls, r.contains call.function := by
  simp [unknown]

/-- The errors for the calls of a node as a walk comes to it. -/
def unknownAt (r : Registry) (x : Schema.Visit) : List ConfigurationError :=
  r.unknown x.path x.node.label.calls

/-- The errors for all calls of a forest, in the order of a walk. -/
def unknownIn (r : Registry) (nodes : List Node) : List ConfigurationError :=
  (Schema.visits nodes).flatMap r.unknownAt

theorem unknownIn_eq_nil_iff {r : Registry} {nodes : List Node} :
    r.unknownIn nodes = [] ↔
      ∀ x ∈ Schema.visits nodes, ∀ call ∈ x.node.label.calls,
        r.contains call.function := by
  rw [unknownIn, List.flatMap_eq_nil_iff]
  exact forall₂_congr fun x _ => unknown_eq_nil_iff

theorem exists_of_mem_unknownIn {r : Registry} {nodes : List Node} {e : ConfigurationError}
    (h : e ∈ r.unknownIn nodes) : ∃ function path, e = .unknownFunction function path := by
  obtain ⟨x, -, he⟩ := List.mem_flatMap.mp h
  obtain ⟨call, -, rfl⟩ := List.mem_map.mp he
  exact ⟨_, _, rfl⟩

end Registry

/-! ## Binding the calls of one node -/

variable {r : Registry}

theorem Bound.new_eq (path : String) (call : Call) :
    Bound.new r path call = firstErrorOr (r.unknown path [call]) (ofCall r call) := by
  rw [Bound.new, ofCall, Registry.unknown, List.filter_cons, Registry.contains_eq]
  cases r.get? call.function <;> rfl

theorem Bound.newAll_eq (path : String) (calls : List Call) :
    calls.mapM (Bound.new r path) =
      firstErrorOr (r.unknown path calls) (calls.map (ofCall r)) := by
  induction calls with
  | nil => rfl
  | cons call calls ih =>
      have hcalls := Registry.unknown_append r path [call] calls
      rw [List.mapM_cons, Bound.new_eq, ih, ← List.singleton_append (l := calls), hcalls]
      exact firstErrorOr_bind (firstErrorOr_bind_pure _)

/-- The calls in `required`: one or none. -/
def Required.calls : Option Required → List Call
  | some (.when call) => [call]
  | _ => []

theorem Constraint.calls_eq (c : Constraint) :
    c.calls = Required.calls c.required? ++ c.rules := by
  rw [calls, Required.calls.eq_def]
  cases c.required? with
  | none => rfl
  | some required => cases required <;> rfl

theorem RequiredCheck.new_eq (path : String) (required? : Option Required) :
    RequiredCheck.new r path required? =
      firstErrorOr (r.unknown path (Required.calls required?)) (ofRequired? r required?) := by
  match required? with
  | none => rfl
  | some (.flag false) => rfl
  | some (.flag true) => rfl
  | some (.message _) => rfl
  | some (.when call) =>
      rw [RequiredCheck.new, Bound.new_eq]
      exact firstErrorOr_bind_pure _

theorem Node.WellFormed.exists_effectiveType? {n : Node} (h : n.WellFormed) :
    ∃ t, n.effectiveType? = some t := by
  rw [← Option.isSome_iff_exists]
  unfold effectiveType?
  cases h with
  | leaf h => simpa [Tree.label] using h
  | fields => simp
  | element => simp

/-- A node that has a type to check against is an error only for its calls. -/
theorem Check.new_eq {n : Node} (hwf : n.WellFormed) {steps : List String} {path : String}
    (hpath : Schema.WrittenAs steps path) (before? : Option (List String)) :
    Check.new r path n.label n.effectiveType? =
      firstErrorOr (r.unknownAt ⟨n, steps, before?⟩) (.ofNode r n) := by
  obtain ⟨t, ht⟩ := hwf.exists_effectiveType?
  have hcheck : Check.ofNode r n = ⟨n.label.id, n.label.type?, t,
      RequiredCheck.ofRequired? r n.label.required?, n.label.rules.map (Bound.ofCall r)⟩ := by
    rw [Check.ofNode, ht]
    rfl
  rw [Registry.unknownAt, Schema.Visit.path, ← hpath.1, Constraint.calls_eq,
    Registry.unknown_append, hcheck]
  unfold Check.new
  rw [ht, RequiredCheck.new_eq, Bound.newAll_eq]
  exact firstErrorOr_bind (firstErrorOr_bind_pure _)

/-! ## Compiling

Below a well-formed node the ids are segments, so the paths that compiling
forms by joining are the texts of the steps of the visits. -/

namespace Plan

open Schema

theorem compileAll_eq {parent : String} {steps before : List String} {ns : List Node}
    (hparent : WrittenAs steps parent) (hids : ∀ n ∈ ns, Path.IsSegment n.id)
    (hnode : ∀ n ∈ ns, ∀ steps path before?, WrittenAs steps path →
      compile r path n = firstErrorOr (r.unknownAt ⟨n, steps, before?⟩ ++
        (visitsBelow steps n).flatMap r.unknownAt) (ofNode r n)) :
    compileAll r parent ns =
      firstErrorOr ((visitsOf steps before ns).flatMap r.unknownAt) (ofNodes r ns) := by
  induction ns generalizing before with
  | nil => rfl
  | cons n ns ih =>
      have hn := hparent.snoc (hids n List.mem_cons_self).ne_empty
      rw [compileAll]
      change (compile r (Path.join parent n.id) n >>= _) = _
      rw [hnode n List.mem_cons_self _ _ (some before) hn,
        ih (fun m hm => hids m (List.mem_cons_of_mem n hm))
          (fun m hm => hnode m (List.mem_cons_of_mem n hm)),
        visitsOf, List.flatMap_append, List.flatMap_cons]
      exact firstErrorOr_bind (firstErrorOr_bind_pure _)

/-- Compiling a node ends in the first call without a function, in the order of
the visits at the node and below, or else in the translation of the node. -/
theorem compile_eq {n : Node} (hwf : n.WellFormed) :
    ∀ steps path before?, WrittenAs steps path →
      compile r path n = firstErrorOr (r.unknownAt ⟨n, steps, before?⟩ ++
        (visitsBelow steps n).flatMap r.unknownAt) (ofNode r n) := by
  induction n using Tree.induction with
  | leaf c =>
      intro steps path before? hpath
      have hcheck : Check.new r path c (Node.effectiveType? (.leaf c)) = _ :=
        Check.new_eq hwf hpath before?
      rw [compile, hcheck, visitsBelow, List.flatMap_nil, List.append_nil]
      exact firstErrorOr_bind_pure _
  | fields c members ih =>
      intro steps path before? hpath
      obtain ⟨hids, hmembers⟩ := Node.wellFormed_fields.mp hwf
      have hcheck : Check.new r path c (Node.effectiveType? (.fields c members)) = _ :=
        Check.new_eq hwf hpath before?
      have hbelow : compileAll r path members =
          firstErrorOr ((visitsOf steps [] members).flatMap r.unknownAt) (ofNodes r members) :=
        compileAll_eq hpath (fun m hm => hids.isSegment_id hm)
          fun m hm => ih m hm (hmembers m hm)
      rw [compile, hcheck, hbelow, visitsBelow]
      exact firstErrorOr_bind (firstErrorOr_bind_pure _)
  | element c item ih =>
      intro steps path before? hpath
      have hcheck : Check.new r path c (Node.effectiveType? (.element c item)) = _ :=
        Check.new_eq hwf hpath before?
      have hitem := hpath.snoc (s := elementSegment) (by decide)
      have hbelow := ih (Node.wellFormed_element.mp hwf) _ _ none hitem
      rw [compile, hcheck, hbelow, visitsBelow, List.flatMap_cons]
      exact firstErrorOr_bind (firstErrorOr_bind_pure _)

theorem compileAll_root {nodes : List Node} (hwf : Schema.WellFormed nodes) :
    compileAll r "" nodes = firstErrorOr (r.unknownIn nodes) (ofNodes r nodes) :=
  compileAll_eq writtenAs_nil (fun _ hn => hwf.ids.isSegment_id hn)
    fun n hn => compile_eq (hwf.nodes n hn)

end Plan

/-! ## The calls of all visits

A walk comes to every node, so the calls of the visits are all the calls of the
forest, in the order in which `Node.calls` lists them. -/

namespace Schema

theorem calls_visitsOf {ns : List Node} {steps before : List String}
    (hnode : ∀ n ∈ ns, ∀ steps,
      n.label.calls ++ (visitsBelow steps n).flatMap (·.node.label.calls) = n.calls) :
    (visitsOf steps before ns).flatMap (·.node.label.calls) = Node.callsOfAll ns := by
  induction ns generalizing before with
  | nil => rfl
  | cons n ns ih =>
      rw [visitsOf, List.flatMap_append, List.flatMap_cons, Node.callsOfAll,
        hnode n List.mem_cons_self,
        ih fun m hm => hnode m (List.mem_cons_of_mem n hm)]

theorem calls_visitsBelow (n : Node) :
    ∀ steps, n.label.calls ++ (visitsBelow steps n).flatMap (·.node.label.calls) =
      n.calls := by
  induction n using Tree.induction with
  | leaf c => exact fun steps => List.append_nil _
  | fields c members ih =>
      intro steps
      rw [visitsBelow, calls_visitsOf ih, Node.calls]
      rfl
  | element c item ih =>
      intro steps
      rw [visitsBelow, List.flatMap_cons, ih, Node.calls]
      rfl

theorem calls_visits (nodes : List Node) :
    (visits nodes).flatMap (·.node.label.calls) = nodes.flatMap Node.calls := by
  rw [visits, calls_visitsOf fun n _ => calls_visitsBelow n, Node.callsOfAll_eq_flatMap]

theorem forall_calls_visits {nodes : List Node} {p : Call → Prop}
    (h : ∀ n ∈ nodes, ∀ call ∈ n.calls, p call) {x : Visit} (hx : x ∈ visits nodes) :
    ∀ call ∈ x.node.label.calls, p call := by
  rw [← List.forall_mem_flatMap, ← calls_visits, List.forall_mem_flatMap] at h
  exact h x hx

end Schema

/-! ## Building a validator -/

namespace Validator

variable {nodes : List Node} {caller : Registry}

theorem new_eq_error_of_schema {e : ConfigurationError} (h : Schema.new nodes = .error e) :
    Validator.new nodes caller = .error e := by
  rw [Validator.new, h]
  rfl

theorem new_eq_firstErrorOr {s : Schema} (h : Schema.new nodes = .ok s) :
    Validator.new nodes caller =
      firstErrorOr ((Registry.builtin.merge caller).unknownIn nodes)
        ⟨s, Registry.builtin.merge caller,
          Plan.ofNodes (Registry.builtin.merge caller) nodes⟩ := by
  obtain ⟨hnodes, hwf⟩ := Schema.new_ok h
  rw [Validator.new, h]
  change (Plan.compileAll _ "" s.nodes >>= _) = _
  rw [hnodes, Plan.compileAll_root hwf]
  exact firstErrorOr_bind_pure _

/-- A validator can be built exactly of a well-formed forest whose calls all have
a function. -/
theorem exists_new_eq_ok_iff :
    (∃ v, Validator.new nodes caller = .ok v) ↔
      Schema.WellFormed nodes ∧
        ∀ n ∈ nodes, ∀ call ∈ n.calls, (Registry.builtin.merge caller).Knows call := by
  constructor
  · rintro ⟨v, hv⟩
    have hbuilt := new_ok hv
    exact ⟨hbuilt.wellFormed, hbuilt.registry_eq ▸ hbuilt.knows⟩
  · rintro ⟨hwf, hcalls⟩
    obtain ⟨s, hs⟩ := Schema.new_eq_ok_iff.mpr hwf
    rw [new_eq_firstErrorOr hs, exists_firstErrorOr_eq_ok_iff, Registry.unknownIn_eq_nil_iff]
    intro x hx call hcall
    rw [Registry.contains_eq]
    exact Schema.forall_calls_visits hcalls hx call hcall

/-- A violation of the schema is the error, whatever is unknown. A schema without
violations makes a validator exactly if every call in it names a function that
is always there or the caller's, and otherwise the error is the first call that
does not, in the order of the visits, `required` before the rules, told at the
path of its node. No registry makes compiling end in any other error. -/
theorem new_firstUnknown (nodes : List Node) (caller : Registry) :
    (∀ e, Schema.new nodes = .error e → Validator.new nodes caller = .error e) ∧
    ∀ s, Schema.new nodes = .ok s →
      ((∃ v, Validator.new nodes caller = .ok v) ↔
        ∀ x ∈ Schema.visits nodes, ∀ call ∈ x.node.label.calls,
          Registry.builtin.contains call.function ∨ caller.contains call.function) ∧
      (∀ e, Validator.new nodes caller = .error e ↔
        ((Registry.builtin.merge caller).unknownIn nodes).head? = some e) ∧
      ∀ r e, Plan.compileAll r "" s.nodes = .error e →
        ∃ function path, e = .unknownFunction function path := by
  refine ⟨fun e h => new_eq_error_of_schema h,
    fun s hs => ⟨?_, fun e => ?_, fun r e h => ?_⟩⟩
  · rw [new_eq_firstErrorOr hs, exists_firstErrorOr_eq_ok_iff, Registry.unknownIn_eq_nil_iff]
    simp only [Registry.contains_merge, Bool.or_eq_true]
  · rw [new_eq_firstErrorOr hs, firstErrorOr_eq_error_iff]
  · obtain ⟨hnodes, hwf⟩ := Schema.new_ok hs
    rw [hnodes, Plan.compileAll_root hwf, firstErrorOr_eq_error_iff] at h
    exact Registry.exists_of_mem_unknownIn (List.mem_of_mem_head? h)

/-- An address book in which two names of functions are misspelled, both in the
node for the kind of a contact. -/
def misspelledBook : List Node :=
  [ Node.new "name" |>.typed .string,
    Node.new "contacts" |>.withElement
      (Node.elementSchema.withFields
        [ Node.new "kind" |>.typed .string |>.rule (Call.new "oneOff").target
            |>.require (.when ((Call.new "isEmtpy").path "name")) ]) ]

theorem new_firstUnknown_misspelledBook :
    (Schema.new (misspelledBook ++ [Node.new "name"]) = .error (.duplicateId "name" "name") ∧
      Validator.new (misspelledBook ++ [Node.new "name"]) .empty =
        .error (.duplicateId "name" "name")) ∧
    (∃ s, Schema.new misspelledBook = .ok s) ∧
    (Registry.builtin.merge .empty).unknownIn misspelledBook =
      [.unknownFunction "isEmtpy" "contacts.*.kind",
        .unknownFunction "oneOff" "contacts.*.kind"] ∧
    Validator.new misspelledBook .empty =
      .error (.unknownFunction "isEmtpy" "contacts.*.kind") ∧
    ∃ function path, ConfigurationError.unknownFunction "isEmtpy" "contacts.*.kind" =
      .unknownFunction function path := by
  have hviolation : Schema.new (misspelledBook ++ [Node.new "name"]) =
      .error (.duplicateId "name" "name") := rfl
  have hunknown : (Registry.builtin.merge .empty).unknownIn misspelledBook =
      [.unknownFunction "isEmtpy" "contacts.*.kind",
        .unknownFunction "oneOff" "contacts.*.kind"] := by
    decide +kernel
  have hall := (new_firstUnknown misspelledBook .empty).2 _ rfl
  have hnew := (hall.2.1 (.unknownFunction "isEmtpy" "contacts.*.kind")).mpr
    (by rw [hunknown]; rfl)
  refine ⟨⟨hviolation, (new_firstUnknown _ .empty).1 _ hviolation⟩, ⟨_, rfl⟩, hunknown, hnew, ?_⟩
  exact hall.2.2 (Registry.builtin.merge .empty) _ rfl

end Validator

end ConstraintTree

import Mathlib.Logic.Relation
import ConstraintTree.Proofs.Resolution

/-!
# Two ways to write one schema

Some things can be said in a schema in more than one way. Not to ask for a value
is `required: false`, or no `required`, or a condition that no blank value
meets. The type `object` is implied by members. A rule that asks for a value
that is not blank is never asked about any other. `Edit` lists these, and
`Schema.Rewrite` is one edit of one node, wherever it stands. However many of
them are made, in either direction, nobody can tell: the same validators can be
built, and they report the same.

That is a congruence argument. What cannot be told about two nodes is
`Interchangeable`: their own ids, whether they are well formed, whether their
calls are known and what their plans find. An edit makes no difference to any of
these (`Edit.interchangeable`), since the required check runs on blank values
only and the rules on all others, and a node takes over whatever is
interchangeable in its children. Only the two predicates on blank values have to
mean what they do when nobody has put something in their place.
-/

namespace ConstraintTree

/-! ## Edits -/

/-- A call with the value under validation as its one argument. -/
def Call.ofTarget (function : String) (message? : Option String) : Call :=
  ⟨function, [.target], message?⟩

/-- Two ways to say when a value is required. -/
inductive Required.Edit : Option Required → Option Required → Prop where
  | never : Edit none (some (.flag false))
  | notEmpty (message? : Option String) :
      Edit none (some (.when (.ofTarget "isNotEmpty" message?)))
  | always : Edit (some (.flag true)) (some (.when (.ofTarget "isEmpty" none)))
  | message (template : String) :
      Edit (some (.message template)) (some (.when (.ofTarget "isEmpty" (some template))))

/-- Two ways to write the constraint above some children. -/
inductive Constraint.Edit : Option Children → Constraint → Constraint → Prop where
  | required {children? : Option Children} {c : Constraint} {before after : Option Required} :
      Required.Edit before after →
      Edit children? { c with required? := before } { c with required? := after }
  | impliedObject {members : List Node} {c : Constraint} :
      Edit (some (.fields members)) { c with type? := none } { c with type? := some .object }
  | ruleNotEmpty {children? : Option Children} {c : Constraint} (front back : List Call)
      (message? : Option String) :
      Edit children? { c with rules := front ++ back }
        { c with rules := front ++ .ofTarget "isNotEmpty" message? :: back }

/-- One edit, of a node or of one below it. -/
inductive Node.Rewrite : Node → Node → Prop where
  | edit {children? : Option Children} {c c' : Constraint} :
      Constraint.Edit children? c c' →
      Rewrite (Children.under children? c) (Children.under children? c')
  | member {c : Constraint} {front back : List Node} {n n' : Node} :
      Rewrite n n' → Rewrite (.fields c (front ++ n :: back)) (.fields c (front ++ n' :: back))
  | item {c : Constraint} {n n' : Node} :
      Rewrite n n' → Rewrite (.element c n) (.element c n')

/-- One edit anywhere in a forest. -/
inductive Schema.Rewrite : List Node → List Node → Prop where
  | node {front back : List Node} {n n' : Node} :
      Node.Rewrite n n' → Rewrite (front ++ n :: back) (front ++ n' :: back)

/-! ## What cannot be told apart -/

/-- Two nodes that no walk can tell apart, with the functions of a registry. -/
structure Node.Interchangeable (r : Registry) (n n' : Node) : Prop where
  id_eq : n.id = n'.id
  wellFormed_iff : n.WellFormed ↔ n'.WellFormed
  knows_iff : (∀ call ∈ n.calls, r.Knows call) ↔ ∀ call ∈ n'.calls, r.Knows call
  findings_eq : ∀ root path,
    (Plan.ofNode r n).findings root path = (Plan.ofNode r n').findings root path

/-- The same for siblings. -/
structure Schema.Interchangeable (r : Registry) (ns ns' : List Node) : Prop where
  ids_eq : ns.map Node.id = ns'.map Node.id
  wellFormed_iff : (∀ n ∈ ns, n.WellFormed) ↔ ∀ n ∈ ns', n.WellFormed
  knows_iff : (∀ n ∈ ns, ∀ call ∈ n.calls, r.Knows call) ↔
    ∀ n ∈ ns', ∀ call ∈ n.calls, r.Knows call
  findings_eq : ∀ root parent, Plan.memberFindings root parent (Plan.ofNodes r ns) =
    Plan.memberFindings root parent (Plan.ofNodes r ns')

variable {r : Registry}

theorem Schema.Interchangeable.of_node {n n' : Node} (h : n.Interchangeable r n')
    (front back : List Node) :
    Interchangeable r (front ++ n :: back) (front ++ n' :: back) where
  ids_eq := by
    rw [List.map_append, List.map_cons, List.map_append, List.map_cons, h.id_eq]
  wellFormed_iff := by
    simp only [List.forall_mem_append, List.forall_mem_cons, h.wellFormed_iff]
  knows_iff := by
    simp only [List.forall_mem_append, List.forall_mem_cons, h.knows_iff]
  findings_eq root parent := by
    simp only [Plan.memberFindings_ofNodes, List.flatMap_append, List.flatMap_cons, h.id_eq,
      h.findings_eq]

/-! ## One node

What a node says is its label and the kind of its children, and of the label the
required check counts for blank values and the rules for all others. -/

namespace Plan

theorem mismatch?_congr {p p' : Plan} (hdeclared : p.label.declared? = p'.label.declared?)
    (hexpected : p.label.expected = p'.label.expected)
    (hchildren : ∀ k, p.childrenAccept k = p'.childrenAccept k) (value : Option Json) :
    p.mismatch? value = p'.mismatch? value := by
  rw [mismatch?, mismatch?, hdeclared, hexpected, hchildren]

theorem wording?_congr {p p' : Plan} {root : Json} {path : String}
    (hmismatch : p.mismatch? (root.get? path) = p'.mismatch? (root.get? path))
    (hdeclared : p.label.declared?.getD .object = p'.label.declared?.getD .object)
    (hrequired : isBlank (root.get? path) = true →
      p.label.required?.bind (·.wording? root path) =
        p'.label.required?.bind (·.wording? root path))
    (hrules : isBlank (root.get? path) = false →
      brokenRule? p.label.rules root path = brokenRule? p'.label.rules root path) :
    p.wording? root path = p'.wording? root path := by
  rw [wording?, wording?, hmismatch]
  cases p'.mismatch? (root.get? path) with
  | some actual => rw [hdeclared]
  | none =>
      cases hblank : isBlank (root.get? path) with
      | true => exact hrequired hblank
      | false => exact hrules hblank

/-- Nodes with one label and children of one kind say the same. -/
theorem wording?_eq_of_label {p p' : Plan} (hlabel : p.label = p'.label)
    (hchildren : ∀ k, p.childrenAccept k = p'.childrenAccept k) (root : Json) (path : String) :
    p.wording? root path = p'.wording? root path := by
  refine wording?_congr (mismatch?_congr ?_ ?_ hchildren _) ?_ (fun _ => ?_) fun _ => ?_
  all_goals rw [hlabel]

/-- Which members there are makes no difference to what the node above says. -/
theorem wording?_fields (c : Constraint) (members members' : List Node) (root : Json)
    (path : String) :
    (ofNode r (.fields c members)).wording? root path =
      (ofNode r (.fields c members')).wording? root path := by
  refine wording?_eq_of_label ?_ (fun k => ?_) root path
  · rfl
  · cases k <;> rfl

theorem wording?_element (c : Constraint) (item item' : Node) (root : Json) (path : String) :
    (ofNode r (.element c item)).wording? root path =
      (ofNode r (.element c item')).wording? root path := by
  refine wording?_eq_of_label ?_ (fun k => ?_) root path
  · rfl
  · cases k <;> rfl

theorem findings_eq_of_below {p p' : Plan} {root : Json} {path : String}
    (hwording : p.wording? root path = p'.wording? root path)
    (hbelow : p.below root path = p'.below root path) :
    p.findings root path = p'.findings root path := by
  rw [findings_eq, findings_eq, hwording, hbelow]

end Plan

theorem Node.forall_calls_fields {p : Call → Prop} {c : Constraint} {members : List Node} :
    (∀ call ∈ calls (.fields c members), p call) ↔
      (∀ call ∈ c.calls, p call) ∧ ∀ m ∈ members, ∀ call ∈ m.calls, p call := by
  rw [calls, List.forall_mem_append, callsOfAll_eq_flatMap, List.forall_mem_flatMap]

theorem Node.forall_calls_element {p : Call → Prop} {c : Constraint} {item : Node} :
    (∀ call ∈ calls (.element c item), p call) ↔
      (∀ call ∈ c.calls, p call) ∧ ∀ call ∈ item.calls, p call := by
  rw [calls, List.forall_mem_append]

namespace Node.Interchangeable

theorem fields {ns ns' : List Node} (h : Schema.Interchangeable r ns ns') (c : Constraint) :
    Interchangeable r (.fields c ns) (.fields c ns') where
  id_eq := rfl
  wellFormed_iff := by
    rw [wellFormed_fields, wellFormed_fields, h.ids_eq, h.wellFormed_iff]
  knows_iff := by
    rw [forall_calls_fields, forall_calls_fields, h.knows_iff]
  findings_eq root path :=
    Plan.findings_eq_of_below (Plan.wording?_fields _ _ _ _ _) (h.findings_eq root path)

theorem element {n n' : Node} (h : n.Interchangeable r n') (c : Constraint) :
    Interchangeable r (.element c n) (.element c n') where
  id_eq := rfl
  wellFormed_iff := by
    rw [wellFormed_element, wellFormed_element, h.wellFormed_iff]
  knows_iff := by
    rw [forall_calls_element, forall_calls_element, h.knows_iff]
  findings_eq root path := by
    refine Plan.findings_eq_of_below (Plan.wording?_element _ _ _ _ _) ?_
    rw [Plan.ofNode, Plan.ofNode, Plan.below, Plan.below]
    simp only [h.findings_eq]

/-- Two constraints above the same children, one of which has a type if the other
one does and whose calls are known if those of the other are. -/
theorem under {children? : Option Children} {c c' : Constraint} (hid : c.id = c'.id)
    (htype : children? = none → c.type? = c'.type?)
    (hcalls : (∀ call ∈ c.calls, r.Knows call) ↔ ∀ call ∈ c'.calls, r.Knows call)
    (hwording : ∀ root path, (Plan.ofNode r (Children.under children? c)).wording? root path =
      (Plan.ofNode r (Children.under children? c')).wording? root path) :
    Interchangeable r (Children.under children? c) (Children.under children? c') := by
  match children? with
  | none =>
      refine ⟨hid, ?_, hcalls, fun root path => Plan.findings_eq_of_below (hwording _ _) rfl⟩
      rw [Children.under, Children.under, wellFormed_leaf, wellFormed_leaf, htype rfl]
  | some (.fields members) =>
      refine ⟨hid, ?_, ?_, fun root path => Plan.findings_eq_of_below (hwording _ _) rfl⟩
      · rw [Children.under, Children.under, wellFormed_fields, wellFormed_fields]
      · rw [Children.under, Children.under, forall_calls_fields, forall_calls_fields, hcalls]
  | some (.element item) =>
      refine ⟨hid, ?_, ?_, fun root path => Plan.findings_eq_of_below (hwording _ _) rfl⟩
      · rw [Children.under, Children.under, wellFormed_element, wellFormed_element]
      · rw [Children.under, Children.under, forall_calls_element, forall_calls_element, hcalls]

end Node.Interchangeable

/-! ## What the edits change

The two predicates on blank values, asked about the value itself, say whether it
is blank. The required check knows that it is, and the rules that it is not. -/

/-- Under a name stands a predicate on the first argument. -/
def Registry.Asks (r : Registry) (name : String) (p : Option Json → Bool) : Prop :=
  r.get? name = some fun args => .bool (p (args.get? 0))

/-- The two predicates on blank values are what they are when nobody has put
something in their place. -/
structure Registry.TellsBlank (r : Registry) : Prop where
  isEmpty : r.Asks "isEmpty" isBlank
  isNotEmpty : r.Asks "isNotEmpty" (!isBlank ·)

theorem Registry.tellsBlank_merge_builtin {caller : Registry}
    (hempty : caller.contains "isEmpty" = false)
    (hnotEmpty : caller.contains "isNotEmpty" = false) :
    (builtin.merge caller).TellsBlank := by
  constructor
  · exact get?_builtin_merge (f := Builtin.isEmpty) (by simp [Builtin.table]) hempty
  · exact get?_builtin_merge (f := Builtin.isNotEmpty) (by simp [Builtin.table]) hnotEmpty

namespace Registry.Asks

variable {name : String} {p : Option Json → Bool} (h : r.Asks name p) (message? : Option String)

include h

/-- Called with the value at hand, the predicate is asked about that value. -/
theorem evaluate_ofTarget (root : Json) (path : String) :
    (Bound.ofCall r (.ofTarget name message?)).evaluate root path =
      .bool (p (root.get? path)) := by
  rw [Bound.evaluate, Bound.ofCall, Call.ofTarget, h]
  rfl

theorem knows_ofTarget : r.Knows (.ofTarget name message?) := by
  rw [Knows, Call.ofTarget, h]
  rfl

end Registry.Asks

/-- A condition that comes out as a truth value lends no text to the message. -/
theorem RequiredCheck.wording?_when {call : Call} {root : Json} {path : String} {b : Bool}
    (h : (Bound.ofCall r call).evaluate root path = .bool b) :
    (ofRequired? r (some (.when call))).bind (·.wording? root path) =
      if b then some ⟨call.message?, .required⟩ else none := by
  change wording? (.when (Bound.ofCall r call)) root path = _
  have hcall : (Bound.ofCall r call).call = call := rfl
  rw [wording?, h, hcall]
  cases call.message? <;> rfl

/-- About a blank value both say the same. -/
theorem Required.Edit.wording?_eq {before after : Option Required} (h : Edit before after)
    (hr : r.TellsBlank) {root : Json} {path : String}
    (hblank : isBlank (root.get? path) = true) :
    (RequiredCheck.ofRequired? r before).bind (·.wording? root path) =
      (RequiredCheck.ofRequired? r after).bind (·.wording? root path) := by
  cases h with
  | never => rfl
  | notEmpty message? =>
      rw [RequiredCheck.wording?_when (hr.isNotEmpty.evaluate_ofTarget _ _ _), hblank]
      rfl
  | always =>
      rw [RequiredCheck.wording?_when (hr.isEmpty.evaluate_ofTarget _ _ _), hblank]
      rfl
  | message template =>
      rw [RequiredCheck.wording?_when (hr.isEmpty.evaluate_ofTarget _ _ _), hblank]
      rfl

theorem Required.Edit.knows_iff {before after : Option Required} (h : Edit before after)
    (hr : r.TellsBlank) :
    (∀ call ∈ Required.calls before, r.Knows call) ↔
      ∀ call ∈ Required.calls after, r.Knows call := by
  cases h with
  | never => rfl
  | notEmpty message? => simp [Required.calls, hr.isNotEmpty.knows_ofTarget]
  | always => simp [Required.calls, hr.isEmpty.knows_ofTarget]
  | message template => simp [Required.calls, hr.isEmpty.knows_ofTarget]

/-- About a value that is not blank, the rule that asks for one has nothing to
say, and the next one is tried. -/
theorem brokenRule?_insert (hr : r.TellsBlank) {root : Json} {path : String}
    (hblank : isBlank (root.get? path) = false) (front back : List Call)
    (message? : Option String) :
    Plan.brokenRule? ((front ++ back).map (Bound.ofCall r)) root path =
      Plan.brokenRule? ((front ++ .ofTarget "isNotEmpty" message? :: back).map
        (Bound.ofCall r)) root path := by
  simp only [Plan.brokenRule?, List.map_append, List.map_cons, List.find?_append,
    List.find?_cons, hr.isNotEmpty.evaluate_ofTarget, hblank, Resolved.isTruthy, Bool.not_false,
    Bool.not_true]

theorem Children.label_under (children? : Option Children) (c : Constraint) :
    (under children? c).label = c := by
  rcases children? with _ | ⟨members⟩ | ⟨item⟩ <;> rfl

theorem Children.id_under (children? : Option Children) (c : Constraint) :
    (under children? c).id = c.id := by
  rw [Node.id, label_under]

/-- The type to check against is the declared one, or a matter of the children. -/
theorem Plan.mismatch?_under {children? : Option Children} {c c' : Constraint}
    (h : c.type? = c'.type?) (value : Option Json) :
    (ofNode r (Children.under children? c)).mismatch? value =
      (ofNode r (Children.under children? c')).mismatch? value := by
  refine mismatch?_congr ?_ ?_ (fun k => ?_) value
  · rw [declared?_ofNode, declared?_ofNode, Children.label_under, Children.label_under, h]
  · rw [expected_ofNode, expected_ofNode]
    unfold Node.effectiveType?
    rw [Children.label_under, Children.label_under, h]
    rcases children? with _ | ⟨members⟩ | ⟨item⟩ <;> rfl
  · rcases children? with _ | ⟨members⟩ | ⟨item⟩ <;> cases k <;> rfl

theorem Plan.wording?_under {children? : Option Children} {c c' : Constraint} {root : Json}
    {path : String} (htype : c.type? = c'.type?)
    (hrequired : isBlank (root.get? path) = true →
      (RequiredCheck.ofRequired? r c.required?).bind (·.wording? root path) =
        (RequiredCheck.ofRequired? r c'.required?).bind (·.wording? root path))
    (hrules : isBlank (root.get? path) = false →
      brokenRule? (c.rules.map (Bound.ofCall r)) root path =
        brokenRule? (c'.rules.map (Bound.ofCall r)) root path) :
    (ofNode r (Children.under children? c)).wording? root path =
      (ofNode r (Children.under children? c')).wording? root path := by
  refine wording?_congr (mismatch?_under htype _) ?_ (fun hblank => ?_) fun hblank => ?_
  · rw [declared?_ofNode, declared?_ofNode, Children.label_under, Children.label_under, htype]
  · rw [required?_ofNode, required?_ofNode, Children.label_under, Children.label_under]
    exact hrequired hblank
  · rw [rules_ofNode, rules_ofNode, Children.label_under, Children.label_under]
    exact hrules hblank

/-- Members imply what the type `object` says. -/
theorem Plan.mismatch?_impliedObject (members : List Node) (c : Constraint)
    (value : Option Json) :
    (ofNode r (.fields { c with type? := none } members)).mismatch? value =
      (ofNode r (.fields { c with type? := some .object } members)).mismatch? value := by
  cases value with
  | none => rfl
  | some value => cases value <;> rfl

theorem Constraint.Edit.interchangeable {children? : Option Children} {c c' : Constraint}
    (h : Edit children? c c') (hr : r.TellsBlank) :
    (Children.under children? c).Interchangeable r (Children.under children? c') := by
  cases h with
  | @required _ c before after h =>
      refine .under rfl (fun _ => rfl) ?_ fun root path => ?_
      · rw [calls_eq, calls_eq, List.forall_mem_append, List.forall_mem_append, h.knows_iff hr]
      · refine Plan.wording?_under ?_ (fun hblank => ?_) fun _ => ?_
        · rfl
        · exact h.wording?_eq hr hblank
        · rfl
  | @impliedObject members c =>
      refine .under rfl (fun h => nomatch h) Iff.rfl fun root path => ?_
      refine Plan.wording?_congr (Plan.mismatch?_impliedObject members c _) ?_ (fun _ => ?_)
        fun _ => ?_
      all_goals rfl
  | @ruleNotEmpty _ c front back message? =>
      refine .under rfl (fun _ => rfl) ?_ fun root path => ?_
      · simp only [calls_eq, List.forall_mem_append, List.forall_mem_cons,
          hr.isNotEmpty.knows_ofTarget, true_and]
      · refine Plan.wording?_under ?_ (fun _ => ?_) fun hblank => ?_
        · rfl
        · rfl
        · exact brokenRule?_insert hr hblank front back message?

/-! ## Any edits anywhere -/

theorem Node.Rewrite.interchangeable {n n' : Node} (h : Rewrite n n') (hr : r.TellsBlank) :
    n.Interchangeable r n' := by
  induction h with
  | edit h => exact h.interchangeable hr
  | member _ ih => exact .fields (.of_node ih _ _) _
  | item _ ih => exact .element ih _

theorem Schema.Rewrite.interchangeable {ns ns' : List Node} (h : Rewrite ns ns')
    (hr : r.TellsBlank) : Interchangeable r ns ns' := by
  cases h with
  | node h => exact .of_node (h.interchangeable hr) _ _

namespace Schema.Interchangeable

theorem refl (ns : List Node) : Interchangeable r ns ns :=
  ⟨rfl, Iff.rfl, Iff.rfl, fun _ _ => rfl⟩

theorem symm {ns ns' : List Node} (h : Interchangeable r ns ns') :
    Interchangeable r ns' ns :=
  ⟨h.ids_eq.symm, h.wellFormed_iff.symm, h.knows_iff.symm,
    fun root parent => (h.findings_eq root parent).symm⟩

theorem trans {ns ns' ns'' : List Node} (h : Interchangeable r ns ns')
    (h' : Interchangeable r ns' ns'') : Interchangeable r ns ns'' :=
  ⟨h.ids_eq.trans h'.ids_eq, h.wellFormed_iff.trans h'.wellFormed_iff,
    h.knows_iff.trans h'.knows_iff,
    fun root parent => (h.findings_eq root parent).trans (h'.findings_eq root parent)⟩

theorem of_eqvGen {ns ns' : List Node} (h : Relation.EqvGen Schema.Rewrite ns ns')
    (hr : r.TellsBlank) : Interchangeable r ns ns' := by
  induction h with
  | rel _ _ h => exact h.interchangeable hr
  | refl ns => exact refl ns
  | symm _ _ _ ih => exact ih.symm
  | trans _ _ _ _ _ ih ih' => exact ih.trans ih'

theorem schemaWellFormed_iff {ns ns' : List Node} (h : Interchangeable r ns ns') :
    Schema.WellFormed ns ↔ Schema.WellFormed ns' := by
  have hiff : ∀ ms : List Node, Schema.WellFormed ms ↔
      GoodIds (ms.map Node.id) ∧ ∀ m ∈ ms, m.WellFormed :=
    fun ms => ⟨fun h => ⟨h.ids, h.nodes⟩, fun h => ⟨h.1, h.2⟩⟩
  rw [hiff, hiff, h.ids_eq, h.wellFormed_iff]

end Schema.Interchangeable

namespace Validator

/-- However often and wherever a forest is edited, in either direction, a
validator can be built of the one exactly if it can be built of the other, and
then both say the same about any data. -/
theorem validate_of_rewrites {nodes nodes' : List Node}
    (h : Relation.EqvGen Schema.Rewrite nodes nodes') {caller : Registry}
    (hempty : caller.contains "isEmpty" = false)
    (hnotEmpty : caller.contains "isNotEmpty" = false) :
    ((∃ v, Validator.new nodes caller = .ok v) ↔ ∃ v, Validator.new nodes' caller = .ok v) ∧
    ∀ v v', Validator.new nodes caller = .ok v → Validator.new nodes' caller = .ok v' →
      ∀ data, v.validate data = v'.validate data := by
  have hr := Registry.tellsBlank_merge_builtin hempty hnotEmpty
  have hsame := Schema.Interchangeable.of_eqvGen h hr
  refine ⟨?_, fun v v' hv hv' data => ?_⟩
  · rw [exists_new_eq_ok_iff, exists_new_eq_ok_iff, hsame.schemaWellFormed_iff, hsame.knows_iff]
  · refine validate_eq_of_findings ?_
    rw [findings_of_new hv, findings_of_new hv', hsame.findings_eq]

/-- A form for a name and for contacts of some kind. -/
def plainForm : List Node :=
  [ Node.new "name" |>.typed .string |>.require (.flag true),
    Node.new "contacts" |>.withElement
      (Node.elementSchema.withFields [Node.new "kind" |>.typed .string]) ]

/-- The same form with more words: a condition that every blank name meets, a
type for the contacts and a rule for kinds that are not blank. -/
def wordyForm : List Node :=
  [ Node.new "name" |>.typed .string |>.require (.when (.ofTarget "isEmpty" none)),
    Node.new "contacts" |>.withElement
      (Node.elementSchema.typed .object |>.withFields
        [ Node.new "kind" |>.typed .string |>.rule (.ofTarget "isNotEmpty" none) ]) ]

/-- No name, and a contact that is not an object. -/
def badAnswers : Json := .object [("contacts", .arr [.str "Ada"])]

theorem rewrites_wordyForm : Relation.EqvGen Schema.Rewrite plainForm wordyForm := by
  have hname : Constraint.Edit none ⟨"name", some .string, some (.flag true), []⟩
      ⟨"name", some .string, some (.when (.ofTarget "isEmpty" none)), []⟩ :=
    @Constraint.Edit.required none ⟨"name", some .string, none, []⟩ _ _ .always
  have hcontact : Constraint.Edit (some (.fields [Node.new "kind" |>.typed .string]))
      (.new "") ⟨"", some .object, none, []⟩ :=
    @Constraint.Edit.impliedObject _ (.new "")
  have hkind : Constraint.Edit none ⟨"kind", some .string, none, []⟩
      ⟨"kind", some .string, none, [.ofTarget "isNotEmpty" none]⟩ :=
    @Constraint.Edit.ruleNotEmpty none ⟨"kind", some .string, none, []⟩ [] [] none
  have hmembers := @Node.Rewrite.member ⟨"", some .object, none, []⟩ [] [] _ _ (.edit hkind)
  exact .trans _ _ _
    (.rel _ _ (@Schema.Rewrite.node [] plainForm.tail _ _ (.edit hname)))
    (.trans _ _ _
      (.rel _ _ (@Schema.Rewrite.node (wordyForm.take 1) [] _ _ (.item (.edit hcontact))))
      (.rel _ _ (@Schema.Rewrite.node (wordyForm.take 1) [] _ _ (.item hmembers))))

theorem validate_of_rewrites_wordyForm :
    Relation.EqvGen Schema.Rewrite plainForm wordyForm ∧
    Registry.empty.contains "isEmpty" = false ∧ Registry.empty.contains "isNotEmpty" = false ∧
    ∃ v v', Validator.new plainForm .empty = .ok v ∧ Validator.new wordyForm .empty = .ok v' ∧
      v.validate badAnswers = v'.validate badAnswers ∧
      v.validate badAnswers =
        .error ⟨[⟨"name", "name is required"⟩,
          ⟨"contacts.0", "contacts.0 is not of type object (got string)"⟩]⟩ := by
  have hempty : Registry.empty.contains "isEmpty" = false := rfl
  have hnotEmpty : Registry.empty.contains "isNotEmpty" = false := rfl
  have hsame := (validate_of_rewrites rewrites_wordyForm hempty hnotEmpty).2 _ _ rfl rfl badAnswers
  exact ⟨rewrites_wordyForm, hempty, hnotEmpty, _, _, rfl, rfl, hsame, rfl⟩

end Validator

end ConstraintTree

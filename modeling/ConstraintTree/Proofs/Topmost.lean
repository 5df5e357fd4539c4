import ConstraintTree.Proofs.Instance
import ConstraintTree.Proofs.Interpreter

/-!
# The topmost failures, and all of them

The report can be described without any walk. Take every instance of every node
and ask what the node itself says there. What is reported are the failures that
have no failure above them, and the data is valid if nowhere in the schema there
is anything to say.

One half of this is soundness: below a failure nothing is reported. The other
half is completeness: a failure is kept from the report only by one above it,
and not by a failing sibling or by another item of the array. Both come down to
the way from a root to a place. It is silent exactly if the ancestors of the
place are, because there is one such way and the ancestors are what it passes.
-/

namespace ConstraintTree

namespace Place

/-- What the node of a place itself has to say there. -/
def Fails (r : Registry) (data : Json) (x : Place) (w : Wording) : Prop :=
  Interpreter.check r data x.path x.node = .ok (some w)

/-- The run comes from a root to a place. -/
def Reached (r : Registry) (data : Json) (nodes : List Node) (x : Place) : Prop :=
  ∃ n ∈ nodes, Relation.ReflTransGen (Step r data) ⟨n, n.id⟩ x

variable {r : Registry} {data : Json} {nodes : List Node}

theorem Reached.step {x y : Place} (h : Reached r data nodes x)
    (hxy : Step r data x y) : Reached r data nodes y := by
  obtain ⟨n, hn, hway⟩ := h
  exact ⟨n, hn, hway.tail hxy⟩

/-- The walk gets to a place exactly if it is an instance and nothing that is
above it speaks. -/
theorem reached_iff (hwf : Schema.WellFormed nodes) {x : Place} :
    Reached r data nodes x ↔
      IsInstance data nodes x ∧
        ∀ y, IsInstance data nodes y → Relation.TransGen (Child data) y x →
          Silent r data y := by
  constructor
  · rintro ⟨n, hn, hway⟩
    induction hway with
    | refl =>
        refine ⟨.root hn, fun y hy hyx => ?_⟩
        obtain ⟨z, hyz, hzx⟩ := Relation.TransGen.tail'_iff.mp hyx
        exact absurd rfl ((hy.of_reach hyz).child_path_ne_id hwf hzx hn)
    | @tail u x _ hux ih =>
        obtain ⟨hu, hsilent⟩ := ih
        refine ⟨hu.child hux.2, fun y hy hyx => ?_⟩
        obtain ⟨z, hyz, hzx⟩ := Relation.TransGen.tail'_iff.mp hyx
        -- What is above `x` is its one parent, or above that.
        obtain rfl := (hy.of_reach hyz).parent_eq hwf hu hzx hux.2
        rcases Relation.reflTransGen_iff_eq_or_transGen.mp hyz with rfl | hyz
        · exact hux.1
        · exact hsilent y hy hyz
  · rintro ⟨hx, hsilent⟩
    induction hx with
    | @root n hn => exact ⟨n, hn, .refl⟩
    | @child x y hx hxy ih =>
        have hreached := ih fun z hz hzx => hsilent z hz (hzx.tail hxy)
        exact hreached.step ⟨hsilent x hx (.single hxy), hxy⟩

theorem fails_iff (hwf : Schema.WellFormed nodes)
    (hcalls : ∀ n ∈ nodes, ∀ call ∈ n.calls, r.Knows call) {x : Place}
    (hx : IsInstance data nodes x) {w : Wording} :
    Fails r data x w ↔ (Plan.ofNode r x.node).wording? data x.path = some w := by
  have hlabel := fun call hcall =>
    hx.forall_calls hcalls call (Node.calls_label x.node hcall)
  rw [Fails, Plan.check_eq (hx.wellFormed hwf) hlabel]
  simp

theorem silent_iff (hwf : Schema.WellFormed nodes)
    (hcalls : ∀ n ∈ nodes, ∀ call ∈ n.calls, r.Knows call) {x : Place}
    (hx : IsInstance data nodes x) :
    Silent r data x ↔ ∀ w, ¬ Fails r data x w := by
  rw [Silent, Option.eq_none_iff_forall_ne_some]
  exact forall_congr' fun w => not_congr (fails_iff hwf hcalls hx).symm

/-! ## What is said depends on what is there -/

theorem requiredStep_failure {path : String} {required? : Option Required}
    {w : Wording}
    (h : Interpreter.requiredStep r data path required? = .ok (some w)) :
    w.failure = .required := by
  match required? with
  | none => cases h
  | some (.flag false) => cases h
  | some (.flag true) => cases h; rfl
  | some (.message _) => cases h; rfl
  | some (.when call) =>
      rw [Interpreter.requiredStep] at h
      obtain ⟨outcome, -, h⟩ := bind_eq_ok h
      split at h
      · cases h; rfl
      · cases h

/-- A node speaks of a missing value only to require it, and its rules speak
only of values that are not blank. -/
theorem Fails.failure {x : Place} {w : Wording} (h : Fails r data x w) :
    (data.get? x.path = none → w.failure = .required) ∧
      ∀ function, w.failure = .rule function →
        isBlank (data.get? x.path) = false := by
  rw [Fails, Interpreter.check] at h
  split at h
  · next hfits =>
      split at h
      · next hblank =>
          have hw := requiredStep_failure h
          exact ⟨fun _ => hw, fun _ hrule => by rw [hw] at hrule; cases hrule⟩
      · next hblank =>
          refine ⟨fun hnone => ?_, fun _ _ => by simpa using hblank⟩
          rw [hnone] at hblank
          exact absurd rfl hblank
  · next hfits =>
      cases h
      refine ⟨fun hnone => ?_, fun _ hrule => by cases hrule⟩
      rw [hnone] at hfits
      simp [Interpreter.typeFits] at hfits

end Place

namespace Validator

open Place

variable {nodes : List Node} {caller : Registry} {v : Validator}

theorem mem_findings_iff (h : Validator.new nodes caller = .ok v) {data : Json}
    {f : Finding} :
    f ∈ v.findings data ↔
      ∃ x w, Reached v.registry data nodes x ∧
        (Plan.ofNode v.registry x.node).wording? data x.path = some w ∧
        f = ⟨x.path, w⟩ := by
  rw [(new_ok h).findings_eq, Plan.memberFindings_ofNodes, List.mem_flatMap]
  constructor
  · rintro ⟨n, hn, hf⟩
    obtain ⟨m, hway, hw⟩ := (Place.mem_findings_iff (x := ⟨n, n.id⟩)).mp hf
    exact ⟨⟨m, f.target⟩, f.wording, ⟨n, hn, hway⟩, hw, rfl⟩
  · rintro ⟨x, w, ⟨n, hn, hway⟩, hw, rfl⟩
    exact ⟨n, hn, (Place.mem_findings_iff (x := ⟨n, n.id⟩)).mpr ⟨x.node, hway, hw⟩⟩

theorem isValid_iff {data : Json} :
    v.isValid data = true ↔ v.findings data = [] := by
  rw [isValid, Report.isEmpty, report, List.isEmpty_iff, List.map_eq_nil_iff]

/-- If nothing is found then the walk got everywhere. -/
theorem silent_of_findings_nil (h : Validator.new nodes caller = .ok v)
    {data : Json} (hnil : v.findings data = []) {x : Place}
    (hx : IsInstance data nodes x) :
    Silent v.registry data x := by
  have hspeaks : ∀ y, Reached v.registry data nodes y →
      Silent v.registry data y := by
    intro y hway
    refine Option.eq_none_iff_forall_ne_some.mpr fun w hw => ?_
    have hf := (mem_findings_iff h).mpr ⟨y, w, hway, hw, rfl⟩
    rw [hnil] at hf
    cases hf
  suffices hway : Reached v.registry data nodes x from hspeaks x hway
  induction hx with
  | @root n hn => exact ⟨n, hn, .refl⟩
  | @child x y hx hxy ih => exact ih.step ⟨hspeaks x ih, hxy⟩

/-- The report says what is said at the instances that have nothing above them
that speaks, and it is empty exactly if no instance has anything to say. -/
theorem mem_messages_iff (h : Validator.new nodes caller = .ok v) (data : Json) :
    (∀ m : Message, m ∈ v.messages data ↔
      ∃ x w, IsInstance data nodes x ∧ x.path = m.target ∧
        Fails v.registry data x w ∧ w.text x.path = m.text ∧
        ∀ y w', IsInstance data nodes y →
          Relation.TransGen (Child data) y x → ¬ Fails v.registry data y w') ∧
    (v.isValid data = true ↔
      ∀ x w, IsInstance data nodes x → ¬ Fails v.registry data x w) ∧
    ∀ x w, Fails v.registry data x w →
      (data.get? x.path = none → w.failure = .required) ∧
        ∀ function, w.failure = .rule function →
          isBlank (data.get? x.path) = false := by
  obtain ⟨-, -, hwf, hcalls, -⟩ := new_ok h
  refine ⟨fun m => ?_, ?_, fun x w hfails => hfails.failure⟩
  · rw [messages_eq_findings, List.mem_map]
    constructor
    · rintro ⟨f, hf, rfl⟩
      obtain ⟨x, w, hway, hw, rfl⟩ := (mem_findings_iff h).mp hf
      obtain ⟨hx, hsilent⟩ := (reached_iff hwf).mp hway
      refine ⟨x, w, hx, rfl, (fails_iff hwf hcalls hx).mpr hw, rfl, ?_⟩
      intro y w' hy hyx
      exact (silent_iff hwf hcalls hy).mp (hsilent y hy hyx) w'
    · obtain ⟨target, text⟩ := m
      rintro ⟨x, w, hx, rfl, hfails, rfl, habove⟩
      have hway := (reached_iff hwf).mpr ⟨hx, fun y hy hyx =>
        (silent_iff hwf hcalls hy).mpr fun w' => habove y w' hy hyx⟩
      have hw := (fails_iff hwf hcalls hx).mp hfails
      exact ⟨⟨x.path, w⟩, (mem_findings_iff h).mpr ⟨x, w, hway, hw, rfl⟩, rfl⟩
  · rw [isValid_iff]
    constructor
    · intro hnil x w hx
      exact (silent_iff hwf hcalls hx).mp (silent_of_findings_nil h hnil hx) w
    · intro hnone
      refine List.eq_nil_iff_forall_not_mem.mpr fun f hf => ?_
      obtain ⟨x, w, hway, hw, -⟩ := (mem_findings_iff h).mp hf
      have hx := ((reached_iff hwf).mp hway).1
      exact hnone x w hx ((fails_iff hwf hcalls hx).mpr hw)

theorem mem_messages_iff_addressBook :
    ∃ v, Validator.new addressBook .empty = .ok v ∧
      (∃ x w, IsInstance addresses addressBook x ∧ x.path = "contacts.1.kind" ∧
        Fails v.registry addresses x w ∧
        w.text x.path = "contacts.1.kind is required" ∧
        ∀ y w', IsInstance addresses addressBook y →
          Relation.TransGen (Child addresses) y x →
          ¬ Fails v.registry addresses y w') ∧
      ¬ ∀ x w, IsInstance addresses addressBook x →
        ¬ Fails v.registry addresses x w := by
  refine ⟨_, rfl, ?_⟩
  have hall := @mem_messages_iff addressBook .empty _ rfl addresses
  refine ⟨(hall.1 ⟨"contacts.1.kind", "contacts.1.kind is required"⟩).mp ?_,
    mt hall.2.1.mpr ?_⟩
  · exact .tail _ (.head _)
  · decide

end Validator

end ConstraintTree

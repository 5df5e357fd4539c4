import Mathlib.Data.List.Find
import Mathlib.Data.List.Forall2
import ConstraintTree.Proofs.Descent

/-!
# What a plan reads, and nothing else

A plan reads the value it stands at, and the paths from the root that its calls
name. Two runs of one plan that see the same in these places go the same way,
however different the rest of the data is and wherever the value stands. The
one thing that shows where a run stood is the path on its findings, and there
the two runs differ only in front: what is found under `p` in one run is found
under `p'` in the other, with the same steps behind and in the same wording.

`Moved` is that relation between two findings. One node says the same in both
runs because what it says is a function of the value in hand and of the paths
that its calls name (`wordingAt?_congr`). Below it the two runs take the same
step, which keeps `Moved` since it is written behind both paths.

Nothing here asks for a well-formed schema. A path that is not empty is
prolonged by a dot and any text, and reading there is reading on from the value
before the dot, whether the text is one segment or not.
-/

namespace ConstraintTree

/-! ## The calls of a plan -/

/-- The calls of a check, that of its required check first. -/
def Check.calls (c : Check) : List Call :=
  match c.required? with
  | some (.when condition) => condition.call :: c.rules.map Bound.call
  | _ => c.rules.map Bound.call

theorem Check.condition_mem_calls {c : Check} {condition : Bound}
    (h : c.required? = some (.when condition)) : condition.call ∈ c.calls := by
  rw [calls, h]
  exact List.mem_cons_self

theorem Check.rule_mem_calls {c : Check} {rule : Bound} (h : rule ∈ c.rules) :
    rule.call ∈ c.calls := by
  have hrule : rule.call ∈ c.rules.map Bound.call := List.mem_map_of_mem h
  rw [calls]
  split
  · exact List.mem_cons_of_mem _ hrule
  · exact hrule

namespace Plan

mutual

/-- The calls in a node of a plan and below, from top to bottom. -/
def calls : Plan → List Call
  | .leaf c => c.calls
  | .fields c members => c.calls ++ callsOfAll members
  | .element c item => c.calls ++ calls item

/-- The calls in the plans of siblings and below, one plan after another. -/
def callsOfAll : List Plan → List Call
  | [] => []
  | p :: ps => calls p ++ callsOfAll ps

end

theorem calls_label_subset (p : Plan) : p.label.calls ⊆ p.calls := by
  cases p with
  | leaf c => exact fun _ h => h
  | fields c members => exact fun _ h => List.mem_append_left _ h
  | element c item => exact fun _ h => List.mem_append_left _ h

theorem calls_subset_callsOfAll {ps : List Plan} {p : Plan} (hp : p ∈ ps) :
    p.calls ⊆ callsOfAll ps := by
  induction ps with
  | nil => cases hp
  | cons q qs ih =>
      rcases List.mem_cons.mp hp with rfl | hp
      · exact List.subset_append_left _ _
      · exact fun _ h => List.mem_append_right _ (ih hp h)

end Plan

/-! ## What one node says -/

/-- Two documents hold the same at every path from the root that is an argument
of one of the calls. -/
def Json.AgreeOn (d d' : Json) (calls : List Call) : Prop :=
  ∀ call ∈ calls, ∀ q, Argument.path q ∈ call.arguments → d.get? q = d'.get? q

variable {d d' : Json}

theorem Json.AgreeOn.mono {calls calls' : List Call} (h : d.AgreeOn d' calls')
    (hsub : calls ⊆ calls') : d.AgreeOn d' calls :=
  fun call hcall => h call (hsub hcall)

theorem Bound.evaluateAt_congr {b : Bound} (h : d.AgreeOn d' [b.call])
    (value : Option Json) : b.evaluateAt d value = b.evaluateAt d' value := by
  have hargs : b.call.arguments.map (Argument.resolveAt d value) =
      b.call.arguments.map (Argument.resolveAt d' value) := by
    refine List.map_congr_left fun a ha => ?_
    cases a with
    | literal v => rfl
    | target => rfl
    | path q => exact h b.call List.mem_cons_self q ha
  rw [evaluateAt, evaluateAt, hargs]

namespace Plan

theorem requiredAt?_congr {c : Check} (h : d.AgreeOn d' c.calls) (value : Option Json) :
    c.required?.bind (·.wordingAt? d value) =
      c.required?.bind (·.wordingAt? d' value) := by
  match hc : c.required? with
  | none => rfl
  | some .always => rfl
  | some (.message _) => rfl
  | some (.when condition) =>
      have hcall : d.AgreeOn d' [condition.call] :=
        h.mono (List.cons_subset.mpr ⟨c.condition_mem_calls hc, List.nil_subset _⟩)
      rw [Option.bind_some, Option.bind_some, RequiredCheck.wordingAt?,
        RequiredCheck.wordingAt?, Bound.evaluateAt_congr hcall]

theorem brokenRuleAt?_congr {c : Check} (h : d.AgreeOn d' c.calls)
    (value : Option Json) :
    brokenRuleAt? c.rules d value = brokenRuleAt? c.rules d' value := by
  have hfind : (c.rules.find? fun b => !(b.evaluateAt d value).isTruthy) =
      c.rules.find? fun b => !(b.evaluateAt d' value).isTruthy := by
    refine List.find?_congr fun rule hrule => ?_
    have hcall : d.AgreeOn d' [rule.call] :=
      h.mono (List.cons_subset.mpr ⟨Check.rule_mem_calls hrule, List.nil_subset _⟩)
    rw [Bound.evaluateAt_congr hcall]
  rw [brokenRuleAt?, brokenRuleAt?, hfind]

theorem wordingAt?_congr {p : Plan} (h : d.AgreeOn d' p.calls) (value : Option Json) :
    p.wordingAt? d value = p.wordingAt? d' value := by
  have hlabel := h.mono p.calls_label_subset
  rw [wordingAt?, wordingAt?, requiredAt?_congr hlabel, brokenRuleAt?_congr hlabel]

end Plan

/-! ## Two runs -/

/-- The findings of two runs that differ in the path only, and in that only by
its front. -/
def Finding.Moved (p p' : String) (f f' : Finding) : Prop :=
  ∃ (rest : String) (w : Wording), f = ⟨p ++ rest, w⟩ ∧ f' = ⟨p' ++ rest, w⟩

/-- The messages of two runs that have one source, the same template or the
same default words, and differ only by the front of the path that both tell. -/
def Message.Moved (p p' : String) (m m' : Message) : Prop :=
  ∃ (rest : String) (w : Wording), m = ⟨p ++ rest, w.text (p ++ rest)⟩ ∧
    m' = ⟨p' ++ rest, w.text (p' ++ rest)⟩

variable {p p' : String}

theorem Finding.Moved.of_join {f f' : Finding} {s : String} (hp : p ≠ "") (hp' : p' ≠ "")
    (h : Moved (Path.join p s) (Path.join p' s) f f') : Moved p p' f f' := by
  obtain ⟨rest, w, rfl, rfl⟩ := h
  refine ⟨"." ++ s ++ rest, w, ?_, ?_⟩
  · rw [Path.join_of_ne hp]
    simp only [String.append_assoc]
  · rw [Path.join_of_ne hp']
    simp only [String.append_assoc]

theorem Finding.Moved.eq {f f' : Finding} (h : Moved p p f f') : f = f' := by
  obtain ⟨rest, w, rfl, rfl⟩ := h
  rfl

theorem Finding.Moved.message {f f' : Finding} (h : Moved p p' f f') :
    Message.Moved p p' f.message f'.message := by
  obtain ⟨rest, w, rfl, rfl⟩ := h
  exact ⟨rest, w, rfl, rfl⟩

namespace Plan

/-- A node says the same in both runs, so it is enough to compare what is below
it. -/
theorem findings_moved_of_below {N : Plan} (hvalue : d.get? p = d'.get? p')
    (hreads : d.AgreeOn d' N.calls)
    (hbelow : List.Forall₂ (Finding.Moved p p') (N.below d p) (N.below d' p')) :
    List.Forall₂ (Finding.Moved p p') (N.findings d p) (N.findings d' p') := by
  rw [findings_eq, findings_eq, wording?_eq, wording?_eq, hvalue, wordingAt?_congr hreads]
  cases N.wordingAt? d' (d'.get? p') with
  | none => exact hbelow
  | some w => exact .cons ⟨"", w, by simp, by simp⟩ .nil

/-- A step down keeps what the runs see the same. -/
theorem findings_moved_of_join {N : Plan} {s : String} (hp : p ≠ "") (hp' : p' ≠ "")
    (hvalue : d.get? p = d'.get? p')
    (hN : d.get? (Path.join p s) = d'.get? (Path.join p' s) →
      List.Forall₂ (Finding.Moved (Path.join p s) (Path.join p' s))
        (N.findings d (Path.join p s)) (N.findings d' (Path.join p' s))) :
    List.Forall₂ (Finding.Moved p p') (N.findings d (Path.join p s))
      (N.findings d' (Path.join p' s)) := by
  have hjoin : d.get? (Path.join p s) = d'.get? (Path.join p' s) := by
    rw [Json.get?_join_of_ne hp, Json.get?_join_of_ne hp', hvalue]
  exact (hN hjoin).imp fun f f' h => h.of_join hp hp'

theorem memberFindings_moved {ps : List Plan}
    (hstep : ∀ N ∈ ps, List.Forall₂ (Finding.Moved p p')
      (N.findings d (Path.join p N.label.id))
      (N.findings d' (Path.join p' N.label.id))) :
    List.Forall₂ (Finding.Moved p p') (memberFindings d p ps)
      (memberFindings d' p' ps) := by
  induction ps with
  | nil => exact .nil
  | cons N ps ih =>
      rw [memberFindings, memberFindings]
      exact List.rel_append (hstep N List.mem_cons_self)
        (ih fun M hM => hstep M (List.mem_cons_of_mem N hM))

theorem findings_moved (N : Plan) : ∀ {p p' : String}, p ≠ "" → p' ≠ "" →
    d.get? p = d'.get? p' → d.AgreeOn d' N.calls →
    List.Forall₂ (Finding.Moved p p') (N.findings d p) (N.findings d' p') := by
  induction N using Tree.induction with
  | leaf c =>
      intro p p' hp hp' hvalue hreads
      exact findings_moved_of_below hvalue hreads .nil
  | fields c members ih =>
      intro p p' hp hp' hvalue hreads
      refine findings_moved_of_below hvalue hreads (memberFindings_moved fun M hM => ?_)
      refine findings_moved_of_join hp hp' hvalue fun hjoin => ?_
      have hmember : d.AgreeOn d' M.calls :=
        hreads.mono fun _ h => List.mem_append_right _ (calls_subset_callsOfAll hM h)
      exact ih M hM (Path.join_ne_empty_of_ne hp _) (Path.join_ne_empty_of_ne hp' _)
        hjoin hmember
  | element c item ih =>
      intro p p' hp hp' hvalue hreads
      have hitem : d.AgreeOn d' (calls item) :=
        hreads.mono fun _ h => List.mem_append_right _ h
      refine findings_moved_of_below hvalue hreads ?_
      -- Both runs meet the same array, or both meet none.
      rw [below, below, hvalue]
      split
      · next xs _ =>
          refine List.rel_flatten (List.forall₂_map_left_iff.mpr
            (List.forall₂_map_right_iff.mpr (List.forall₂_same.mpr fun i _ => ?_)))
          refine findings_moved_of_join hp hp' hvalue fun hjoin => ?_
          exact ih (Path.join_ne_empty_of_ne hp _) (Path.join_ne_empty_of_ne hp' _)
            hjoin hitem
      · exact .nil

/-- Two runs of a plan at places with the same value, in documents that hold the
same at every path that an argument names, give messages of the same places
below in the same words. Where the place is the same the messages are equal. -/
theorem messages_moved (N : Plan) {d d' : Json} {p p' : String} (hp : p ≠ "")
    (hp' : p' ≠ "") (hvalue : d.get? p = d'.get? p')
    (hreads : ∀ call ∈ N.calls, ∀ q, Argument.path q ∈ call.arguments →
      d.get? q = d'.get? q) :
    List.Forall₂ (Message.Moved p p') ((N.findings d p).map Finding.message)
        ((N.findings d' p').map Finding.message) ∧
      (p = p' → (N.findings d p).map Finding.message =
        (N.findings d' p').map Finding.message) := by
  have hmoved := findings_moved N hp hp' hvalue hreads
  constructor
  · rw [List.forall₂_map_left_iff, List.forall₂_map_right_iff]
    exact hmoved.imp fun f f' h => h.message
  · rintro rfl
    have heq : List.Forall₂ (· = ·) (N.findings d p) (N.findings d' p) :=
      hmoved.imp fun f f' h => h.eq
    rw [List.forall₂_eq_eq_eq] at heq
    rw [heq]

end Plan

/-- The book of `addresses` with its contacts the other way round. -/
def turnedAddresses : Json :=
  .object [("contacts", .arr [.object [("address", .str "y")],
      .object [("address", .str "x"), ("kind", .str "fax")]]),
    ("name", .str "Ada")]

namespace Plan

theorem messages_moved_addressBook :
    ∃ v c N, Validator.new addressBook .empty = .ok v ∧ Tree.element c N ∈ v.plan ∧
      Path.item "contacts" 0 ≠ "" ∧ Path.item "contacts" 1 ≠ "" ∧
      addresses.get? (Path.item "contacts" 0) =
        turnedAddresses.get? (Path.item "contacts" 1) ∧
      (∀ call ∈ calls N, ∀ q, Argument.path q ∈ call.arguments →
        addresses.get? q = turnedAddresses.get? q) ∧
      List.Forall₂ (Message.Moved (Path.item "contacts" 0) (Path.item "contacts" 1))
        ((findings addresses (Path.item "contacts" 0) N).map Finding.message)
        ((findings turnedAddresses (Path.item "contacts" 1) N).map Finding.message) := by
  have hfront : Path.item "contacts" 0 ≠ "" := Path.join_ne_empty_of_ne (by decide) _
  have hback : Path.item "contacts" 1 ≠ "" := Path.join_ne_empty_of_ne (by decide) _
  have hindexable : addresses.Indexable ∧ turnedAddresses.Indexable := by
    simp [addresses, turnedAddresses, Json.indexable_object, Json.Indexable, Json.ItemsIndexable]
  have hcontacts : addresses.get? "contacts" = some (.arr [_, _]) := rfl
  have hturned : turnedAddresses.get? "contacts" = some (.arr [_, _]) := rfl
  have hvalue : addresses.get? (Path.item "contacts" 0) =
      turnedAddresses.get? (Path.item "contacts" 1) :=
    (Json.get?_item hindexable.1 hcontacts rfl).trans
      (Json.get?_item hindexable.2 hturned rfl).symm
  refine ⟨_, _, _, rfl, .tail _ (.head _), hfront, hback, hvalue, ?reads,
    (messages_moved _ hfront hback hvalue ?reads).1⟩
  intro call hcall q hq
  -- The calls are `oneOf`, which names no path, and `isNotEmpty` of the name.
  change call ∈ [_, _] at hcall
  rcases List.mem_pair.mp hcall with rfl | rfl
  · cases hq with
    | tail _ hq => cases hq with
      | tail _ hq => cases hq
  · cases hq with
    | head => rfl
    | tail _ hq => cases hq

end Plan

end ConstraintTree

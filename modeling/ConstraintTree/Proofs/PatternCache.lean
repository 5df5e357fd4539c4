import Mathlib.Data.List.Dedup
import ConstraintTree.Proofs.Registry
import ConstraintTree.Proofs.Compile

/-!
# The cache of patterns does not show

Validating is a function of the data, and yet there is something that one run
leaves to the next: the patterns that were compiled so far. Many runs share
them, and each call finds whatever the calls before it have left there. This
file says that no answer depends on it. Nothing has to be known of the engine that
compiles and matches, but that it is a function.

The reason is an invariant that says all there is to know of a cache. If it has
met some sources, then under each of them it holds the pattern that this source
compiles to, and under any other text it holds nothing (`Holds`). A call keeps
this, whether it finds its pattern, compiles it or fails to, and it gives the
answer that compiling its source anew would give (`Holds.isMatch`). So what
happened before can be forgotten, and how many patterns are held is a matter of
which sources were met and not of their order.

The rest carries this to the predicate on patterns and to whole validations.
`Plan.findingsShared` runs a plan on a cache that is shared with others. Before
each of its calls any number of calls of others may come in. As long as every
call answers as if it were alone, so does the run.
-/

namespace ConstraintTree

namespace PatternCache

/-- A text that is asked about, with the source of a pattern. -/
structure Query where
  text : String
  source : String

/-- The answer to a query without any cache. -/
def Query.answer (e : PatternEngine) (q : Query) : Option Bool :=
  (e.compile? q.source).map (e.isMatch · q.text)

variable {e : PatternEngine}

/-- The answers to some queries one after another, with the cache afterwards. -/
def run (c : PatternCache e) : List Query → List (Option Bool) × PatternCache e
  | [] => ([], c)
  | q :: qs =>
    let (answer, c) := c.isMatch q.text q.source
    let (answers, c) := c.run qs
    (answer :: answers, c)

/-- The cache after some queries, of which there were no others. -/
def after (e : PatternEngine) (qs : List Query) : PatternCache e := (empty.run qs).2

/-! ## What a cache holds -/

/-- What a cache holds that has met some sources. -/
def Holds (c : PatternCache e) (met : List String) : Prop :=
  ∀ s, c.compiled[s]? = if s ∈ met then e.compile? s else none

theorem holds_empty : (empty : PatternCache e).Holds [] :=
  fun _ => Std.ExtTreeMap.getElem?_empty

/-- A source that was met already may be met again, and so may one that does
not compile. -/
theorem Holds.snoc_self {c : PatternCache e} {met : List String} {source : String}
    (h : c.Holds met) (hsource : c.compiled[source]? = e.compile? source) :
    c.Holds (met ++ [source]) := by
  intro s
  by_cases hs : s = source
  · rw [if_pos (by simp [hs]), hs, hsource]
  · rw [h s]
    simp [hs]

theorem Holds.insert {c : PatternCache e} {met : List String} {source : String} {p : e.Compiled}
    (h : c.Holds met) (hp : e.compile? source = some p) :
    Holds ⟨c.compiled.insert source p⟩ (met ++ [source]) := by
  intro s
  rw [Std.ExtTreeMap.getElem?_insert]
  simp only [Std.LawfulEqOrd.compare_eq_iff_eq]
  by_cases hs : source = s
  · rw [if_pos hs, if_pos (by simp [hs]), ← hs, hp]
  · rw [if_neg hs, h s]
    simp [Ne.symm hs]

/-- One call. It may find its pattern, or compile it and keep it, or have none
to keep. -/
theorem Holds.isMatch {c : PatternCache e} {met : List String} (h : c.Holds met) (q : Query) :
    (c.isMatch q.text q.source).1 = q.answer e ∧
      (c.isMatch q.text q.source).2.Holds (met ++ [q.source]) := by
  rw [PatternCache.isMatch, Query.answer]
  cases hc : c.compiled[q.source]? with
  | some p =>
      have hp : e.compile? q.source = some p := by
        have hheld := h q.source
        rw [hc] at hheld
        split at hheld
        · exact hheld.symm
        · cases hheld
      rw [hp]
      exact ⟨rfl, h.snoc_self (hc.trans hp.symm)⟩
  | none =>
      cases hp : e.compile? q.source with
      | some p => exact ⟨rfl, h.insert hp⟩
      | none => exact ⟨rfl, h.snoc_self (hc.trans hp.symm)⟩

theorem Holds.run {c : PatternCache e} {met : List String} (h : c.Holds met)
    (qs : List Query) :
    (c.run qs).1 = qs.map (Query.answer e) ∧
      (c.run qs).2.Holds (met ++ qs.map Query.source) := by
  induction qs generalizing c met with
  | nil => exact ⟨rfl, by rw [List.map_nil, List.append_nil]; exact h⟩
  | cons q qs ih =>
      obtain ⟨hanswer, hheld⟩ := h.isMatch q
      obtain ⟨hanswers, hafter⟩ := ih hheld
      rw [PatternCache.run, List.map_cons, List.map_cons, ← hanswer, ← hanswers]
      refine ⟨rfl, ?_⟩
      rw [List.append_assoc] at hafter
      exact hafter

theorem holds_after (qs : List Query) : (after e qs).Holds (qs.map Query.source) :=
  (holds_empty.run qs).2

theorem run_append (c : PatternCache e) (qs rs : List Query) :
    (c.run (qs ++ rs)).2 = ((c.run qs).2.run rs).2 := by
  induction qs generalizing c with
  | nil => rfl
  | cons q qs ih => exact ih _

theorem after_append (qs rs : List Query) : after e (qs ++ rs) = ((after e qs).run rs).2 :=
  run_append empty qs rs

/-! ## How much a cache holds -/

/-- The sources among some that compile, each once. -/
def compiling (e : PatternEngine) (met : List String) : List String :=
  (met.filter fun s => (e.compile? s).isSome).dedup

theorem Holds.size_eq {c : PatternCache e} {met : List String} (h : c.Holds met) :
    c.size = (compiling e met).length := by
  have hkeys : c.compiled.keys.Nodup :=
    c.compiled.distinct_keys.imp fun hne heq => hne (by simp [heq])
  have hperm : c.compiled.keys.Perm (compiling e met) := by
    refine (List.perm_ext_iff_of_nodup hkeys (List.nodup_dedup _)).mpr fun s => ?_
    rw [Std.ExtTreeMap.mem_keys, Std.ExtTreeMap.mem_iff_isSome_getElem?, h s,
      List.mem_dedup, List.mem_filter]
    split <;> simp [*]
  rw [size, ← Std.ExtTreeMap.length_keys, hperm.length_eq]

/-- Which sources were met is all that counts, and not when. -/
theorem Holds.unique {c d : PatternCache e} {met met' : List String} (hc : c.Holds met)
    (hd : d.Holds met') (hmet : ∀ s, s ∈ met ↔ s ∈ met') : c = d := by
  obtain ⟨f⟩ := c
  obtain ⟨g⟩ := d
  refine congrArg PatternCache.mk (Std.ExtTreeMap.ext_getElem? fun s => ?_)
  exact (hc s).trans ((if_congr (hmet s) rfl rfl).trans (hd s).symm)

theorem after_perm {qs rs : List Query} (h : qs.Perm rs) : after e qs = after e rs :=
  (holds_after qs).unique (holds_after rs) fun _ => (h.map Query.source).mem_iff

end PatternCache

/-! ## Runs that share a cache -/

/-- A cache that a run shares with others. Before each call of the run the others
get one turn, in which they may make any calls. -/
structure Shared (e : PatternEngine) where
  cache : PatternCache e
  /-- The calls of the others, turn by turn. -/
  turns : List (List PatternCache.Query)

variable {e : PatternEngine}

/-- The predicate on patterns on a shared cache. -/
def Shared.matches (args : Arguments) : StateM (Shared e) Bool := fun s =>
  let cache := (s.cache.run (s.turns.headD [])).2
  let (answer, cache) := Builtin.matchesWith cache args
  (answer, ⟨cache, s.turns.tail⟩)

/-- A run on a shared cache gives a result, whatever queries the cache has met
and whatever the others do, and the cache has met nothing but queries then. -/
def Gives {α : Type} (run : StateM (Shared e) α) (result : α) : Prop :=
  ∀ s qs, s.cache = PatternCache.after e qs →
    (run s).1 = result ∧ ∃ rs, (run s).2.cache = PatternCache.after e rs

namespace Gives

variable {α β : Type}

theorem pure (a : α) : Gives (Pure.pure a : StateM (Shared e) α) a :=
  fun _ qs h => ⟨rfl, qs, h⟩

theorem bind {run : StateM (Shared e) α} {a : α} {next : α → StateM (Shared e) β} {b : β}
    (hrun : Gives run a) (hnext : Gives (next a) b) : Gives (run >>= next) b := by
  intro s qs hs
  obtain ⟨ha, rs, hrs⟩ := hrun s qs hs
  rw [← ha] at hnext
  exact hnext (run s).2 rs hrs

theorem mapM {f : α → StateM (Shared e) β} {g : α → β} {xs : List α}
    (h : ∀ x, Gives (f x) (g x)) : Gives (xs.mapM f) (xs.map g) := by
  induction xs with
  | nil => exact pure []
  | cons x xs ih =>
      rw [List.mapM_cons]
      exact (h x).bind (ih.bind (pure _))

end Gives

namespace Builtin

theorem matchesWith_after (qs : List PatternCache.Query) (args : Arguments) :
    (matchesWith (PatternCache.after e qs) args).1 = matchesBy e args ∧
      ∃ rs, (matchesWith (PatternCache.after e qs) args).2 = PatternCache.after e rs := by
  rw [matchesBy, matchesWith, matchesWith]
  cases args.str? 0 with
  | none => exact ⟨rfl, qs, rfl⟩
  | some text =>
      cases args.str? 1 with
      | none => exact ⟨rfl, qs, rfl⟩
      | some source =>
          have hanswer := ((PatternCache.holds_after (e := e) qs).isMatch ⟨text, source⟩).1
          have halone := (PatternCache.holds_empty (e := e).isMatch ⟨text, source⟩).1
          refine ⟨congrArg (Option.getD · false) (hanswer.trans halone.symm),
            qs ++ [⟨text, source⟩], ?_⟩
          rw [PatternCache.after_append]
          rfl

end Builtin

theorem Shared.gives_matches (args : Arguments) :
    Gives (Shared.matches (e := e) args) (Builtin.matchesBy e args) := by
  intro s qs hs
  rw [Shared.matches, hs, ← PatternCache.after_append]
  exact Builtin.matchesWith_after _ args

/-! ## Plans on a shared cache

`kept` says under which names the predicate on patterns stands. A call of such a
name goes to the cache, and every other call is a function of its arguments. -/

section

variable (e) (kept : String → Bool)

/-- What a call comes out as. Only the predicate on patterns has to do with the cache. -/
def Bound.evaluateShared (b : Bound) (root : Json) (target : String) :
    StateM (Shared e) Resolved :=
  let args : Arguments := ⟨b.call.arguments.map (Argument.resolve root target)⟩
  if kept b.call.function then do return .bool (← Shared.matches (e := e) args)
  else return b.function args

namespace Plan

/-- What the required check says about a blank value. -/
def requiredShared? (root : Json) (path : String) :
    Option RequiredCheck → StateM (Shared e) (Option Wording)
  | none => return none
  | some .always => return some ⟨none, .required⟩
  | some (.message template) => return some ⟨some template, .required⟩
  | some (.when condition) => do
    let outcome ← condition.evaluateShared e kept root path
    if outcome.isTruthy then
      return some ⟨condition.call.message? <|> outcome.text?, .required⟩
    else return none

/-- What the first rule that fails says. The rules behind it are not asked. -/
def brokenRuleShared? (root : Json) (path : String) :
    List Bound → StateM (Shared e) (Option Wording)
  | [] => return none
  | b :: bs => do
    let outcome ← b.evaluateShared e kept root path
    if outcome.isTruthy then brokenRuleShared? root path bs
    else return some ⟨b.call.message?, .rule b.call.function⟩

/-- What a node says about its value. -/
def wordingShared? (p : Plan) (root : Json) (path : String) :
    StateM (Shared e) (Option Wording) :=
  let value := root.get? path
  match p.mismatch? value with
  | some actual =>
    return some ⟨none, .typeMismatch (p.label.declared?.getD .object) actual⟩
  | none =>
    if isBlank value then requiredShared? e kept root path p.label.required?
    else brokenRuleShared? e kept root path p.label.rules

mutual

/-- What there is to say about a node and, if it says nothing itself, below it. -/
def findingsShared (root : Json) (path : String) : Plan → StateM (Shared e) (List Finding)
  | .leaf c => do
    match ← wordingShared? e kept (.leaf c) root path with
    | some w => return [⟨path, w⟩]
    | none => return []
  | .fields c members => do
    match ← wordingShared? e kept (.fields c members) root path with
    | some w => return [⟨path, w⟩]
    | none => memberFindingsShared root path members
  | .element c item => do
    match ← wordingShared? e kept (.element c item) root path with
    | some w => return [⟨path, w⟩]
    | none =>
      match root.get? path with
      | some (.arr xs) =>
        let found ← (List.range xs.length).mapM fun i =>
          findingsShared root (Path.item path i) item
        return found.flatten
      | _ => return []

/-- What there is to say about members, one after another. -/
def memberFindingsShared (root : Json) (parent : String) :
    List Plan → StateM (Shared e) (List Finding)
  | [] => return []
  | p :: ps => do
    let first ← findingsShared root (Path.join parent p.label.id) p
    let rest ← memberFindingsShared root parent ps
    return first ++ rest

end

end Plan

/-- Validation on a shared cache. -/
def Validator.validateShared (v : Validator) (data : Json) :
    StateM (Shared e) (Except Report Unit) := do
  let found ← Plan.memberFindingsShared e kept data "" v.plan
  return Report.toExcept ⟨found.map Finding.message⟩ ()

end

/-! ## They find the same -/

section

variable {kept : String → Bool} {r : Registry}

/-- The names in `kept` stand for the predicate on patterns, as an engine has them. -/
def Registry.Keeps (r : Registry) (e : PatternEngine) (kept : String → Bool) : Prop :=
  ∀ name, kept name → r.get? name = some fun args => .bool (Builtin.matchesBy e args)

theorem Bound.gives_evaluate (h : r.Keeps e kept) (call : Call) (root : Json)
    (target : String) :
    Gives ((ofCall r call).evaluateShared e kept root target)
      ((ofCall r call).evaluate root target) := by
  rw [evaluateShared]
  split
  · next hkept =>
      have hfunction : (ofCall r call).function =
          fun args => .bool (Builtin.matchesBy e args) := by
        rw [ofCall, h call.function hkept]
        rfl
      rw [evaluate, Call.evaluate, hfunction]
      exact (Shared.gives_matches _).bind (.pure _)
  · exact .pure _

namespace Plan

theorem gives_required (h : r.Keeps e kept) (root : Json) (path : String)
    (required? : Option Required) :
    Gives (requiredShared? e kept root path (RequiredCheck.ofRequired? r required?))
      ((RequiredCheck.ofRequired? r required?).bind (·.wording? root path)) := by
  match required? with
  | none => exact .pure _
  | some (.flag false) => exact .pure _
  | some (.flag true) => exact .pure _
  | some (.message _) => exact .pure _
  | some (.when call) =>
      refine (Bound.gives_evaluate h call root path).bind ?_
      rw [RequiredCheck.ofRequired?, Option.bind_some, RequiredCheck.wording?]
      split
      · exact .pure _
      · exact .pure _

theorem gives_brokenRule (h : r.Keeps e kept) (root : Json) (path : String)
    (calls : List Call) :
    Gives (brokenRuleShared? e kept root path (calls.map (Bound.ofCall r)))
      (brokenRule? (calls.map (Bound.ofCall r)) root path) := by
  induction calls with
  | nil => exact .pure _
  | cons call calls ih =>
      refine (Bound.gives_evaluate h call root path).bind ?_
      rw [brokenRule?, List.map_cons, List.find?_cons]
      cases ((Bound.ofCall r call).evaluate root path).isTruthy with
      | true => exact ih
      | false => exact .pure _

theorem gives_wording (h : r.Keeps e kept) (n : Node) (root : Json) (path : String) :
    Gives ((ofNode r n).wordingShared? e kept root path) ((ofNode r n).wording? root path) := by
  rw [wordingShared?, wording?]
  cases (ofNode r n).mismatch? (root.get? path) with
  | some actual => exact .pure _
  | none =>
      cases isBlank (root.get? path) with
      | true =>
          rw [required?_ofNode]
          exact gives_required h root path n.label.required?
      | false =>
          rw [rules_ofNode]
          exact gives_brokenRule h root path n.label.rules

theorem gives_memberFindings {root : Json} {ns : List Node}
    (hnode : ∀ n ∈ ns, ∀ path, Gives ((ofNode r n).findingsShared e kept root path)
      ((ofNode r n).findings root path)) (parent : String) :
    Gives (memberFindingsShared e kept root parent (ofNodes r ns))
      (memberFindings root parent (ofNodes r ns)) := by
  induction ns with
  | nil => exact .pure _
  | cons n ns ih =>
      refine (hnode n List.mem_cons_self _).bind ?_
      exact (ih fun m hm => hnode m (List.mem_cons_of_mem n hm)).bind (.pure _)

/-- The node says the same, so it is enough to compare what comes after. -/
theorem gives_findings_of_below (h : r.Keeps e kept) {n : Node} {root : Json} {path : String}
    {next : StateM (Shared e) (List Finding)} (hnext : Gives next ((ofNode r n).below root path)) :
    Gives (do
      match ← (ofNode r n).wordingShared? e kept root path with
      | some w => return [⟨path, w⟩]
      | none => next) ((ofNode r n).findings root path) := by
  refine (gives_wording h n root path).bind ?_
  rw [findings_eq]
  cases (ofNode r n).wording? root path with
  | some w => exact .pure _
  | none => exact hnext

theorem gives_findings (h : r.Keeps e kept) (root : Json) (n : Node) :
    ∀ path, Gives ((ofNode r n).findingsShared e kept root path)
      ((ofNode r n).findings root path) := by
  induction n using Tree.induction with
  | leaf c =>
      intro path
      exact gives_findings_of_below (n := .leaf c) h (.pure _)
  | fields c members ih =>
      intro path
      exact gives_findings_of_below (n := .fields c members) h (gives_memberFindings ih path)
  | element c item ih =>
      intro path
      refine gives_findings_of_below (n := .element c item) h ?_
      rw [ofNode, below]
      cases root.get? path with
      | none => exact .pure _
      | some value =>
          cases value with
          | arr xs =>
              exact (Gives.mapM fun i => ih (Path.item path i)).bind (.pure _)
          | null | bool | num | str | obj => exact .pure _

end Plan

theorem Validator.gives_validate {nodes : List Node} {caller : Registry} {v : Validator}
    (hv : Validator.new nodes caller = .ok v) (h : v.registry.Keeps e kept) (data : Json) :
    Gives (v.validateShared e kept data) (v.validate data) := by
  rw [validateShared, validate, report, findings, (new_ok hv).plan_eq]
  exact (Plan.gives_memberFindings (fun n _ => Plan.gives_findings h data n) "").bind (.pure _)

end

/-- Whatever an engine compiles and matches, every query is answered as if there were
no cache, and the cache holds what the sources met so far compile to: as many patterns
as there are different sources that compile, in whatever order they came. So the
predicate on patterns gives one answer after any queries, and a validation gives one
result, also if others use the cache in between. What it leaves in the cache are
queries again, so validations may have come before, too. -/
theorem PatternCache.run_transparent (e : PatternEngine) :
    (∀ qs : List Query,
      (run (empty : PatternCache e) qs).1 = qs.map (Query.answer e) ∧
      (∀ s, (after e qs).compiled[s]? =
        if s ∈ qs.map Query.source then e.compile? s else none) ∧
      (after e qs).size = (compiling e (qs.map Query.source)).length ∧
      ∀ rs, qs.Perm rs → (after e rs).size = (after e qs).size) ∧
    (∀ qs args, (Builtin.matchesWith (after e qs) args).1 = Builtin.matchesBy e args) ∧
    ∀ nodes caller v kept, Validator.new nodes caller = .ok v → v.registry.Keeps e kept →
      ∀ qs turns data,
        (v.validateShared e kept data ⟨after e qs, turns⟩).1 = v.validate data ∧
        ∃ rs, (v.validateShared e kept data ⟨after e qs, turns⟩).2.cache = after e rs := by
  refine ⟨fun qs => ⟨(holds_empty.run qs).1, holds_after qs, (holds_after qs).size_eq,
      fun rs h => congrArg size (after_perm h).symm⟩,
    fun qs args => (Builtin.matchesWith_after qs args).1, ?_⟩
  intro nodes caller v kept hv hkept qs turns data
  exact Validator.gives_validate hv hkept data ⟨after e qs, turns⟩ qs rfl

/-- Three queries of two sources, one of which does not compile. -/
def someQueries : List PatternCache.Query := [⟨"ab", "b$"⟩, ⟨"x", "("⟩, ⟨"", "b$"⟩]

/-- A list of codes, each of small letters. -/
def codeList : List Node :=
  [ Node.new "codes" |>.withElement
      (Node.elementSchema.typed .string
        |>.rule ((Call.new "matches").target.literal (.str "^[a-z]+$"))) ]

/-- One good code and one that is not. -/
def someCodes : Json := .object [("codes", .arr [.str "ab", .str "X"])]

theorem PatternCache.run_transparent_codeList :
    (run (empty : PatternCache Pattern.engine) someQueries).1 = [some true, none, some false] ∧
    (after Pattern.engine someQueries).size = 1 ∧
    someQueries.Perm someQueries.reverse ∧
    (after Pattern.engine someQueries.reverse).size = 1 ∧
    ∃ v, Validator.new codeList .empty = .ok v ∧
      v.registry.Keeps Pattern.engine (· == "matches") ∧
      (v.validateShared Pattern.engine (· == "matches") someCodes
          ⟨after Pattern.engine someQueries, [[], [⟨"x", "^[a-z]+$"⟩], someQueries]⟩).1 =
        .error ⟨[⟨"codes.1", "codes.1 is invalid (matches)"⟩]⟩ := by
  have hall := run_transparent Pattern.engine
  have hrun := hall.1 someQueries
  have hreverse : someQueries.Perm someQueries.reverse := (List.reverse_perm _).symm
  have hsize : (after Pattern.engine someQueries).size = 1 := by
    rw [hrun.2.2.1]
    decide +kernel
  have hkeeps : (Registry.builtin.merge .empty).Keeps Pattern.engine (· == "matches") := by
    intro name hname
    rw [eq_of_beq hname]
    rfl
  refine ⟨?_, hsize, hreverse, (hrun.2.2.2 _ hreverse).trans hsize, _, rfl, hkeeps, ?_⟩
  · rw [hrun.1]
    decide +kernel
  · rw [(hall.2.2 codeList .empty _ _ rfl hkeeps _ _ _).1]
    decide +kernel

end ConstraintTree

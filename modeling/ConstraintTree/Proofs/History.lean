import Mathlib.Logic.Function.Basic
import ConstraintTree.Proofs.ByteOrder
import ConstraintTree.Proofs.Registry

/-!
# How a registry came about

A registry begins empty or with the functions that are always there, and then
functions are put into it one by one or another registry is laid over it, which has
a history of its own. Of all this one list remains, the writes in the order in which
they count, where what is laid over comes after what lies below. The registry is that
list registered from left to right (`registry_eq_ofList`), so its answer to a name is
the last write of that name.

Registries also change in place, and one that is laid over another stays in use. So
the same steps are taken on registries that are kept in slots. A step changes the
slot that it names and no other one, and what is in a slot at the end is what the
history of the slot says.
-/

namespace ConstraintTree

/-- The last item that is something under `p?` is in front of items that are nothing. -/
theorem getLast?_filterMap_eq_some_iff {α β : Type} {p? : α → Option β} {xs : List α} {b : β} :
    (xs.filterMap p?).getLast? = some b ↔
      ∃ front a back, xs = front ++ a :: back ∧ p? a = some b ∧ ∀ x ∈ back, p? x = none := by
  rw [List.getLast?_filterMap, List.findSome?_eq_some_iff]
  constructor
  · rintro ⟨back, a, front, hxs, ha, hback⟩
    refine ⟨front.reverse, a, back.reverse, ?_, ha, fun x hx => hback x (List.mem_reverse.mp hx)⟩
    rw [← List.reverse_inj, hxs]
    simp
  · rintro ⟨front, a, back, rfl, ha, hback⟩
    refine ⟨back.reverse, a, front.reverse, by simp, ha, fun x hx => ?_⟩
    exact hback x (List.mem_reverse.mp hx)

namespace Registry

/-! ## Writes -/

/-- What a write puts under a name. -/
def written? (name : String) (write : String × Function) : Option Function :=
  if write.1 = name then some write.2 else none

theorem written?_eq_some_iff {name : String} {write : String × Function} {f : Function} :
    written? name write = some f ↔ write = (name, f) := by
  obtain ⟨key, g⟩ := write
  rw [written?, Option.ite_none_right_eq_some, Prod.mk.injEq, Option.some.injEq]

theorem written?_eq_none_iff {name : String} {write : String × Function} :
    written? name write = none ↔ write.1 ≠ name := by
  rw [written?, ite_eq_right_iff]
  exact ⟨fun h hkey => Option.some_ne_none _ (h hkey), fun h hkey => absurd hkey h⟩

/-- `f` is written under `name`, and nothing is written under it later. -/
def LastWrite (writes : List (String × Function)) (name : String) (f : Function) : Prop :=
  ∃ earlier later, writes = earlier ++ (name, f) :: later ∧ ∀ write ∈ later, write.1 ≠ name

theorem lastWrite_iff {writes : List (String × Function)} {name : String} {f : Function} :
    LastWrite writes name f ↔ (writes.filterMap (written? name)).getLast? = some f := by
  simp only [getLast?_filterMap_eq_some_iff, written?_eq_some_iff, written?_eq_none_iff,
    LastWrite]
  constructor
  · rintro ⟨earlier, later, hwrites, hlater⟩
    exact ⟨earlier, (name, f), later, hwrites, rfl, hlater⟩
  · rintro ⟨earlier, _, later, hwrites, rfl, hlater⟩
    exact ⟨earlier, later, hwrites, hlater⟩

theorem LastWrite.mem {writes : List (String × Function)} {name : String} {f : Function}
    (h : LastWrite writes name f) : (name, f) ∈ writes := by
  obtain ⟨earlier, later, rfl, -⟩ := h
  exact List.mem_append_right earlier List.mem_cons_self

theorem exists_lastWrite {writes : List (String × Function)} {name : String} {f : Function}
    (h : (name, f) ∈ writes) : ∃ g, LastWrite writes name g := by
  have hmem : f ∈ writes.filterMap (written? name) :=
    List.mem_filterMap.mpr ⟨(name, f), h, written?_eq_some_iff.mpr rfl⟩
  obtain ⟨g, hg⟩ := Option.isSome_iff_exists.mp
    (List.getLast?_isSome.mpr (List.ne_nil_of_mem hmem))
  exact ⟨g, lastWrite_iff.mpr hg⟩

/-- Registers functions from left to right. -/
def registerAll (r : Registry) (writes : List (String × Function)) : Registry :=
  writes.foldl (fun r (name, f) => r.register name f) r

theorem get?_registerAll (r : Registry) (writes : List (String × Function)) (name : String) :
    (r.registerAll writes).get? name =
      ((writes.filterMap (written? name)).getLast?).or (r.get? name) := by
  refine foldl_lastWrite (fun r : Registry => r.get? name) (fun r write => ?_) writes r
  rw [get?_register, written?]
  split <;> rfl

theorem get?_ofList (writes : List (String × Function)) (name : String) :
    (ofList writes).get? name = (writes.filterMap (written? name)).getLast? := by
  have hget := get?_registerAll empty writes name
  rw [get?_empty, Option.or_none] at hget
  exact hget

theorem ofList_concat (writes : List (String × Function)) (name : String) (f : Function) :
    ofList (writes ++ [(name, f)]) = (ofList writes).register name f :=
  List.foldl_append

theorem ofList_append (writes writes' : List (String × Function)) :
    ofList (writes ++ writes') = (ofList writes).merge (ofList writes') := by
  refine ext fun name => ?_
  rw [get?_merge, get?_ofList, get?_ofList, get?_ofList, List.filterMap_append,
    List.getLast?_append]

/-- Laying over is registering all that is there to be laid over, in any order and
with any repetitions. -/
theorem merge_eq_registerAll {overrides : Registry} {entries : List (String × Function)}
    (hentries : ∀ name f, (name, f) ∈ entries ↔ overrides.get? name = some f) (r : Registry) :
    r.merge overrides = r.registerAll entries := by
  refine ext fun name => ?_
  rw [get?_merge, get?_registerAll]
  refine congrArg (·.or (r.get? name)) (Option.ext fun f => ?_)
  rw [← hentries, ← lastWrite_iff]
  refine ⟨fun hf => ?_, LastWrite.mem⟩
  -- the name has a last entry, and all its entries are one
  obtain ⟨g, hg⟩ := exists_lastWrite hf
  have hgf : some g = some f :=
    ((hentries name g).mp hg.mem).symm.trans ((hentries name f).mp hf)
  exact Option.some.inj hgf ▸ hg

/-! ## Histories -/

/-- How a registry is made. A function that is put in by a chained call is put in just
the same. -/
inductive History where
  | empty
  | builtin
  | register (h : History) (name : String) (f : Function)
  | merge (h overrides : History)

namespace History

/-- The registry that is made in this way. -/
def registry : History → Registry
  | .empty => .empty
  | .builtin => .builtin
  | .register h name f => h.registry.register name f
  | .merge h overrides => h.registry.merge overrides.registry

/-- All writes, the last one at the end. What is laid over is written after what lies
below. -/
def writes : History → List (String × Function)
  | .empty => []
  | .builtin => Builtin.table.map fun (name, f) => (name, fun args => .bool (f args))
  | .register h name f => h.writes ++ [(name, f)]
  | .merge h overrides => h.writes ++ overrides.writes

theorem registry_eq_ofList (h : History) : h.registry = ofList h.writes := by
  induction h with
  | empty => rfl
  | builtin => rfl
  | register h name f ih => rw [registry, ih, writes, ofList_concat]
  | merge h overrides ih ihover => rw [registry, ih, ihover, writes, ofList_append]

theorem get?_registry (h : History) (name : String) :
    h.registry.get? name = (h.writes.filterMap (written? name)).getLast? := by
  rw [registry_eq_ofList, get?_ofList]

theorem get?_registry_eq_some_iff {h : History} {name : String} {f : Function} :
    h.registry.get? name = some f ↔ LastWrite h.writes name f := by
  rw [get?_registry, lastWrite_iff]

theorem get?_registry_eq_none_iff {h : History} {name : String} :
    h.registry.get? name = none ↔ ∀ write ∈ h.writes, write.1 ≠ name := by
  rw [get?_registry, List.getLast?_eq_none_iff, List.filterMap_eq_nil_iff]
  simp only [written?_eq_none_iff]

end History

/-! ## Slots -/

/-- A step on registries that are kept in slots. It changes the slot that it names
first. -/
inductive Step (ι : Type) where
  | empty (slot : ι)
  | builtin (slot : ι)
  | register (slot : ι) (name : String) (f : Function)
  | merge (slot source : ι)

namespace Step

variable {ι : Type}

/-- The slot that a step changes. -/
def slot : Step ι → ι
  | .empty slot => slot
  | .builtin slot => slot
  | .register slot _ _ => slot
  | .merge slot _ => slot

/-- What a step puts into its slot. -/
def outcome (slots : ι → Registry) : Step ι → Registry
  | .empty _ => .empty
  | .builtin _ => .builtin
  | .register slot name f => (slots slot).register name f
  | .merge slot source => (slots slot).merge (slots source)

/-- What a step makes of the history of its slot. -/
def history (slots : ι → History) : Step ι → History
  | .empty _ => .empty
  | .builtin _ => .builtin
  | .register slot name f => .register (slots slot) name f
  | .merge slot source => .merge (slots slot) (slots source)

theorem registry_history (slots : ι → History) (s : Step ι) :
    (s.history slots).registry = s.outcome fun slot => (slots slot).registry := by
  cases s with
  | empty | builtin | register | merge => rfl

variable [DecidableEq ι]

/-- The slots after a step. -/
def apply (slots : ι → Registry) (s : Step ι) : ι → Registry :=
  Function.update slots s.slot (s.outcome slots)

/-- The histories of the slots after a step. -/
def record (slots : ι → History) (s : Step ι) : ι → History :=
  Function.update slots s.slot (s.history slots)

theorem apply_of_ne (slots : ι → Registry) (s : Step ι) {other : ι} (h : other ≠ s.slot) :
    s.apply slots other = slots other :=
  Function.update_of_ne h _ _

/-- What is laid over another registry stays as it was, also over itself. -/
theorem apply_merge_source (slots : ι → Registry) (slot source : ι) :
    (Step.merge slot source).apply slots source = slots source := by
  by_cases h : source = slot
  · subst h
    exact (Function.update_self _ _ _).trans (merge_self _)
  · exact apply_of_ne slots (.merge slot source) h

theorem registry_record (slots : ι → History) (s : Step ι) :
    (fun slot => (s.record slots slot).registry) =
      s.apply fun slot => (slots slot).registry := by
  refine funext fun other => ?_
  rw [record, apply, Function.apply_update fun _ => History.registry, registry_history]

end Step

section Runs

variable {ι : Type} [DecidableEq ι]

/-- What is in the slots after some steps. At the beginning all are empty. -/
def slotsAfter (steps : List (Step ι)) : ι → Registry :=
  steps.foldl Step.apply fun _ => empty

/-- How what is in the slots after some steps was made. -/
def historyAfter (steps : List (Step ι)) : ι → History :=
  steps.foldl Step.record fun _ => .empty

theorem slotsAfter_concat (steps : List (Step ι)) (s : Step ι) :
    slotsAfter (steps ++ [s]) = s.apply (slotsAfter steps) :=
  List.foldl_append

theorem foldl_apply (steps : List (Step ι)) (slots : ι → History) :
    steps.foldl Step.apply (fun slot => (slots slot).registry) =
      fun slot => (steps.foldl Step.record slots slot).registry :=
  List.foldl_hom (fun (slots : ι → History) slot => (slots slot).registry)
    fun slots s => (Step.registry_record slots s).symm

theorem slotsAfter_eq_registry (steps : List (Step ι)) (slot : ι) :
    slotsAfter steps slot = (historyAfter steps slot).registry :=
  congrFun (foldl_apply steps fun _ => .empty) slot

end Runs

/-! ## The last writer wins -/

/-- A registry answers with the last write of a name, where laying over counts as
writing all that is laid over. Laying over is associative, has the empty registry as
its unit on both sides and does nothing with a registry over itself. The names are
in the order of their bytes, each one once. What is laid over is left as it was, and
so are all slots that a step does not name. -/
theorem history_rightBiased :
    (∀ (h : History) (name : String),
      (∀ f, h.registry.get? name = some f ↔ LastWrite h.writes name f) ∧
      (h.registry.get? name = none ↔ ∀ write ∈ h.writes, write.1 ≠ name) ∧
      (h.registry.contains name = true ↔ ∃ f, h.registry.get? name = some f)) ∧
    (∀ (r overrides : Registry) (entries : List (String × Function)),
      (∀ name f, (name, f) ∈ entries ↔ overrides.get? name = some f) →
      r.merge overrides = r.registerAll entries) ∧
    (∀ r s t : Registry, (r.merge s).merge t = r.merge (s.merge t)) ∧
    (∀ r : Registry, empty.merge r = r ∧ r.merge empty = r ∧ r.merge r = r) ∧
    (∀ r : Registry,
      r.names.Pairwise (fun a b => Utf8.bytes a < Utf8.bytes b) ∧
      (∀ name, name ∈ r.names ↔ r.contains name = true) ∧
      r.names.length = r.size ∧ (r.isEmpty = true ↔ r.names = [])) ∧
    ∀ (ι : Type) [DecidableEq ι] (steps : List (Step ι)),
      (∀ slot, slotsAfter steps slot = (historyAfter steps slot).registry) ∧
      (∀ slot source,
        slotsAfter (steps ++ [.merge slot source]) source = slotsAfter steps source) ∧
      ∀ s other, other ≠ s.slot → slotsAfter (steps ++ [s]) other = slotsAfter steps other := by
  refine ⟨fun h name => ⟨fun f => h.get?_registry_eq_some_iff, h.get?_registry_eq_none_iff, ?_⟩,
    fun r overrides entries hentries => merge_eq_registerAll hentries r, merge_assoc,
    fun r => ⟨empty_merge r, merge_empty r, merge_self r⟩,
    fun r => ⟨?_, fun name => mem_names_iff, length_names r, isEmpty_iff_names⟩,
    fun ι _ steps => ⟨slotsAfter_eq_registry steps, fun slot source => ?_,
      fun s other hother => ?_⟩⟩
  · rw [contains_eq, Option.isSome_iff_exists]
  · exact (names_sorted r).imp Utf8.bytes_lt_bytes
  · rw [slotsAfter_concat, Step.apply_merge_source]
  · rw [slotsAfter_concat, Step.apply_of_ne _ _ hother]

/-- A function that gives one text for all arguments. -/
def saying (text : String) : Function := fun _ => .text text

/-- Above the functions that are always there and a name of its own lies a registry
that has written that name twice, and `equals`, and the empty name. -/
def layeredSteps : List (Step Bool) :=
  [ .builtin false, .register false "é" (saying "below"),
    .register true "é" (saying "draft"), .register true "equals" (saying "above"),
    .register true "" (saying "above"), .register true "é" (saying "above"),
    .merge false true ]

/-- The history of the registry below. -/
def layered : History := historyAfter layeredSteps false

theorem history_rightBiased_layered :
    (LastWrite layered.writes "é" (saying "above") ∧
      layered.registry.get? "é" = some (saying "above") ∧
      layered.registry.contains "é" = true) ∧
    ((∀ write ∈ layered.writes, write.1 ≠ "other") ∧ layered.registry.get? "other" = none) ∧
    ((∀ name f, (name, f) ∈ [("é", saying "on top"), ("é", saying "on top")] ↔
        (empty.register "é" (saying "on top")).get? name = some f) ∧
      layered.registry.merge (empty.register "é" (saying "on top")) =
        layered.registry.registerAll [("é", saying "on top"), ("é", saying "on top")]) ∧
    (layered.registry.names =
        ["", "equals", "isEmpty", "isNotEmpty", "lengthAtLeast", "lengthAtMost", "matches",
          "maximum", "minimum", "notEquals", "oneOf", "é"] ∧
      layered.registry.names.Pairwise (fun a b => Utf8.bytes a < Utf8.bytes b) ∧
      layered.registry.size = 12) ∧
    (slotsAfter layeredSteps false = layered.registry ∧
      slotsAfter layeredSteps true = slotsAfter (layeredSteps.take 6) true ∧
      slotsAfter (layeredSteps ++ [.merge false false]) false = layered.registry ∧
      slotsAfter (layeredSteps ++ [.empty true]) false = layered.registry) := by
  obtain ⟨hanswers, hmerge, -, -, hnames, hslots⟩ := history_rightBiased
  obtain ⟨hsome, -, hcontains⟩ := hanswers layered "é"
  have hlast : LastWrite layered.writes "é" (saying "above") :=
    ⟨layered.writes.dropLast, [], rfl, List.forall_mem_nil _⟩
  have habove := (hsome _).mpr hlast
  have hother : ∀ write ∈ layered.writes, write.1 ≠ "other" := by decide +kernel
  have hentries : ∀ name f, (name, f) ∈ [("é", saying "on top"), ("é", saying "on top")] ↔
      (empty.register "é" (saying "on top")).get? name = some f := by
    intro name f
    rw [get?_register, get?_empty, Option.ite_none_right_eq_some]
    simp [eq_comm]
  obtain ⟨hsorted, -, hlength, -⟩ := hnames layered.registry
  have hlist : layered.registry.names =
      ["", "equals", "isEmpty", "isNotEmpty", "lengthAtLeast", "lengthAtMost", "matches",
        "maximum", "minimum", "notEquals", "oneOf", "é"] := by
    -- The map lists its keys in order, so that sorting them has nothing to do.
    refine (List.mergeSort_of_pairwise ?_).trans ?_
    · decide +kernel
    · decide +kernel
  obtain ⟨hrun, hsource, hframe⟩ := hslots Bool layeredSteps
  exact ⟨⟨hlast, habove, hcontains.mpr ⟨_, habove⟩⟩,
    ⟨hother, (hanswers layered "other").2.1.mpr hother⟩,
    ⟨hentries, hmerge _ _ _ hentries⟩, ⟨hlist, hsorted, by rw [← hlength, hlist]; rfl⟩,
    hrun false, (hslots Bool (layeredSteps.take 6)).2.1 false true,
    (hsource false false).trans (hrun false),
    (hframe (.empty true) false (by decide)).trans (hrun false)⟩

end Registry

end ConstraintTree

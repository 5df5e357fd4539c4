import ConstraintTree.Proofs.Compile
import ConstraintTree.Proofs.Registry

/-!
# Gathering, step by step

A builder gathers root nodes and functions in any order and any mixture of
steps. In the end only two things count: the nodes in the order in which they
came, and for each name the last step that said something about it. The builder
is the pair of these two (`nodes_ofSteps`, `get?_ofSteps`), and building is
building of that pair.

So the steps that add nodes and the steps that register functions do not see
each other. Two runs may mix them in any way, and as long as each kind has kept
its own order they end in one and the same builder.
-/

namespace ConstraintTree

namespace Builder

theorem eq_of {b b' : Builder} (hnodes : b.nodes = b'.nodes)
    (hfunctions : ∀ name, b.registry.get? name = b'.registry.get? name) : b = b' := by
  obtain ⟨nodes, r⟩ := b
  obtain ⟨nodes', r'⟩ := b'
  obtain rfl : nodes = nodes' := hnodes
  exact congrArg (Builder.mk nodes) (Registry.ext hfunctions)

/-- One call on a builder. -/
inductive Step where
  | node (n : Node)
  | nodesOf (ns : List Node)
  | function (name : String) (f : Function)
  | overlay (r : Registry)

namespace Step

/-- The builder after one call. -/
def apply (b : Builder) : Step → Builder
  | .node n => b.node n
  | .nodesOf ns => b.nodesOf ns
  | .function name f => b.function name f
  | .overlay r => b.overlay r

/-- Whether a step adds nodes. All others are about functions. -/
def addsNodes : Step → Bool
  | .node _ => true
  | .nodesOf _ => true
  | .function .. => false
  | .overlay _ => false

/-- The root nodes that a step adds. -/
def added : Step → List Node
  | .node n => [n]
  | .nodesOf ns => ns
  | .function .. => []
  | .overlay _ => []

/-- What a step registers under a name. -/
def registered? (name : String) : Step → Option Function
  | .node _ => none
  | .nodesOf _ => none
  | .function key f => if key = name then some f else none
  | .overlay r => r.get? name

theorem nodes_apply (b : Builder) (s : Step) : (s.apply b).nodes = b.nodes ++ s.added := by
  cases s with
  | node n => rfl
  | nodesOf ns => rfl
  | function name f => exact (List.append_nil _).symm
  | overlay r => exact (List.append_nil _).symm

theorem get?_apply (b : Builder) (s : Step) (name : String) :
    (s.apply b).registry.get? name = (s.registered? name).or (b.registry.get? name) := by
  cases s with
  | node n => rfl
  | nodesOf ns => rfl
  | function key f =>
      rw [apply, Builder.function, Registry.get?_register, registered?]
      split <;> rfl
  | overlay r => exact Registry.get?_merge b.registry r name

theorem added_eq_nil {s : Step} (h : s.addsNodes = false) : s.added = [] := by
  cases s with
  | node | nodesOf => cases h
  | function | overlay => rfl

theorem registered?_eq_none {s : Step} (h : s.addsNodes = true) (name : String) :
    s.registered? name = none := by
  cases s with
  | node | nodesOf => rfl
  | function | overlay => cases h

end Step

/-- The builder after some steps. -/
def ofSteps (steps : List Step) : Builder := steps.foldl Step.apply empty

/-- The last function that some steps register under a name. -/
def lastRegistered? (steps : List Step) (name : String) : Option Function :=
  (steps.filterMap (Step.registered? name)).getLast?

theorem nodes_foldl (steps : List Step) (b : Builder) :
    (steps.foldl Step.apply b).nodes = b.nodes ++ steps.flatMap Step.added := by
  induction steps generalizing b with
  | nil => exact (List.append_nil _).symm
  | cons s steps ih =>
      rw [List.foldl_cons, ih, Step.nodes_apply, List.flatMap_cons, List.append_assoc]

theorem nodes_ofSteps (steps : List Step) :
    (ofSteps steps).nodes = steps.flatMap Step.added :=
  nodes_foldl steps empty

theorem get?_ofSteps (steps : List Step) (name : String) :
    (ofSteps steps).registry.get? name = lastRegistered? steps name := by
  have hlast := foldl_lastWrite (fun b : Builder => b.registry.get? name)
    (fun b s => Step.get?_apply b s name) steps empty
  have hempty : empty.registry.get? name = none := Registry.get?_empty name
  rw [hempty, Option.or_none] at hlast
  exact hlast

/-! ## Nodes and functions do not see each other -/

theorem added_filter (steps : List Step) :
    steps.flatMap Step.added = (steps.filter Step.addsNodes).flatMap Step.added := by
  induction steps with
  | nil => rfl
  | cons s steps ih =>
      rw [List.flatMap_cons, ih]
      cases h : s.addsNodes with
      | true => rw [List.filter_cons_of_pos h, List.flatMap_cons]
      | false => rw [List.filter_cons_of_neg (by simp [h]), Step.added_eq_nil h, List.nil_append]

theorem lastRegistered?_filter (steps : List Step) (name : String) :
    lastRegistered? steps name =
      lastRegistered? (steps.filter fun s => !s.addsNodes) name := by
  rw [lastRegistered?, lastRegistered?, List.filterMap_filter]
  refine congrArg (fun f => (steps.filterMap f).getLast?) (funext fun s => ?_)
  cases h : s.addsNodes with
  | true => exact Step.registered?_eq_none h name
  | false => rfl

theorem ofSteps_eq_of_filter_eq {steps steps' : List Step}
    (hnodes : steps.filter Step.addsNodes = steps'.filter Step.addsNodes)
    (hfunctions : (steps.filter fun s => !s.addsNodes) = steps'.filter fun s => !s.addsNodes) :
    ofSteps steps = ofSteps steps' := by
  refine eq_of ?_ fun name => ?_
  · rw [nodes_ofSteps, nodes_ofSteps, added_filter, hnodes, ← added_filter]
  · rw [get?_ofSteps, get?_ofSteps, lastRegistered?_filter, hfunctions,
      ← lastRegistered?_filter]

/-- Nodes may be added together or one by one. -/
theorem ofSteps_nodesOf (front back : List Step) (ns : List Node) :
    ofSteps (front ++ .nodesOf ns :: back) = ofSteps (front ++ ns.map .node ++ back) := by
  refine eq_of ?_ fun name => ?_
  · simp [nodes_ofSteps, List.flatMap_map, Step.added]
  · have hnone : (ns.map Step.node).filterMap (Step.registered? name) = [] :=
      List.filterMap_eq_nil_iff.mpr fun s hs => by
        obtain ⟨n, -, rfl⟩ := List.mem_map.mp hs
        rfl
    rw [get?_ofSteps, get?_ofSteps, lastRegistered?, lastRegistered?, List.filterMap_append,
      List.filterMap_append, List.filterMap_append, hnone, List.append_nil,
      List.filterMap_cons_none rfl]

/-! ## Building -/

/-- Building is the direct construction from all added nodes and the last
registration of each name. What it yields depends neither on how the two kinds
of steps are mixed nor on whether nodes come together or one by one. -/
theorem build_eq_new (steps : List Step) :
    (∃ caller : Registry, (∀ name, caller.get? name = lastRegistered? steps name) ∧
      (ofSteps steps).build = Validator.new (steps.flatMap Step.added) caller) ∧
    (∀ v, (ofSteps steps).build = .ok v → ∀ name,
      v.registry.get? name = (lastRegistered? steps name).or (Registry.builtin.get? name)) ∧
    (∀ steps', steps.filter Step.addsNodes = steps'.filter Step.addsNodes →
      (steps.filter fun s => !s.addsNodes) = (steps'.filter fun s => !s.addsNodes) →
      (ofSteps steps).build = (ofSteps steps').build) ∧
    ∀ front ns back, steps = front ++ .nodesOf ns :: back →
      (ofSteps steps).build = (ofSteps (front ++ ns.map .node ++ back)).build := by
  have hbuild : (ofSteps steps).build =
      Validator.new (steps.flatMap Step.added) (ofSteps steps).registry := by
    rw [build, nodes_ofSteps]
  refine ⟨⟨_, get?_ofSteps steps, hbuild⟩, fun v hv name => ?_,
    fun steps' hnodes hfunctions => ?_, ?_⟩
  · rw [(Validator.new_ok (hbuild.symm.trans hv)).registry_eq, Registry.get?_merge, get?_ofSteps]
  · rw [ofSteps_eq_of_filter_eq hnodes hfunctions]
  · rintro front ns back rfl
    rw [ofSteps_nodesOf]

/-- A node whose one rule is a call of `check`. -/
def checked (id : String) : Node := Node.new id |>.typed .any |>.rule (Call.new "check")

/-- A predicate that is false of everything. -/
def refuse : Function := fun _ => .bool false

/-- A predicate that is true of everything. -/
def allow : Function := fun _ => .bool true

/-- Nodes mixed with two registrations of `check`. The later one allows what the
first refuses, and brings its own `isEmpty`. -/
def mixedSteps : List Step :=
  [ .node (checked "a"), .function "check" refuse, .nodesOf [checked "b", checked "c"],
    .overlay ((Registry.empty.register "check" allow).register "isEmpty" refuse) ]

/-- The same steps with all functions before all nodes. -/
def sortedSteps : List Step :=
  [ .function "check" refuse,
    .overlay ((Registry.empty.register "check" allow).register "isEmpty" refuse),
    .node (checked "a"), .nodesOf [checked "b", checked "c"] ]

theorem build_eq_new_mixedSteps :
    (∃ caller : Registry, caller.get? "check" = some allow ∧
      (ofSteps mixedSteps).build =
        Validator.new [checked "a", checked "b", checked "c"] caller) ∧
    (∃ v, (ofSteps mixedSteps).build = .ok v ∧ v.registry.get? "check" = some allow ∧
      v.registry.get? "isEmpty" = some refuse ∧
      v.registry.get? "isNotEmpty" = Registry.builtin.get? "isNotEmpty") ∧
    (mixedSteps.filter Step.addsNodes = sortedSteps.filter Step.addsNodes ∧
      (mixedSteps.filter fun s => !s.addsNodes) = (sortedSteps.filter fun s => !s.addsNodes) ∧
      (ofSteps mixedSteps).build = (ofSteps sortedSteps).build) ∧
    mixedSteps = [.node (checked "a"), .function "check" refuse] ++
      .nodesOf [checked "b", checked "c"] :: mixedSteps.drop 3 ∧
    (ofSteps mixedSteps).build =
      (ofSteps ([.node (checked "a"), .function "check" refuse] ++
        [.node (checked "b"), .node (checked "c")] ++ mixedSteps.drop 3)).build := by
  obtain ⟨⟨caller, hcaller, hbuild⟩, hresolves, hmixed, hone⟩ := build_eq_new mixedSteps
  obtain ⟨v, hv⟩ : ∃ v, (ofSteps mixedSteps).build = .ok v := ⟨_, rfl⟩
  have hgets := hresolves v hv
  have hsplit : mixedSteps = [.node (checked "a"), .function "check" refuse] ++
      .nodesOf [checked "b", checked "c"] :: mixedSteps.drop 3 := rfl
  exact ⟨⟨caller, hcaller "check", hbuild⟩,
    ⟨v, hv, hgets "check", hgets "isEmpty", hgets "isNotEmpty"⟩,
    ⟨rfl, rfl, hmixed sortedSteps rfl rfl⟩, hsplit, hone _ _ _ hsplit⟩

end Builder

end ConstraintTree

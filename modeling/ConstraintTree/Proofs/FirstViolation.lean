import ConstraintTree.Proofs.WellFormed

/-!
# Which violation is told

The walk over a forest stops at the first violation. To say that it is the
first one, the walk is written down here without the stop: `visits` lists every
node in the order in which a walk from top to bottom and from left to right
comes to it, with the steps that lead there and the ids of the siblings before
it, and `violations` lists everything that is wrong, visit by visit. A forest is
a schema exactly if that list is empty, and otherwise its head is the error.

The steps of a visit are ids, and `*` for the items of an array, and its path is
their text with dots between. The walk that stops never forms that text. It
joins one step at a time, and joining drops the dot after an empty path. The
two differ only below a root without an id, and the walk does not get there:
as long as nothing was wrong, the path is empty only above the roots (`WrittenAs`).
-/

namespace ConstraintTree

namespace Schema

/-- A node as a walk comes to it. -/
structure Visit where
  node : Node
  /-- The steps from the root, its own step last. -/
  steps : List String
  /-- The ids of the siblings before it; an item node has no siblings. -/
  before? : Option (List String)

namespace Visit

/-- The path of a visit as an error gives it. -/
def path (x : Visit) : String := ".".intercalate x.steps

/-- The last step of a visit: an id, or the star of an item node. -/
def ownStep (x : Visit) : String :=
  match x.before? with
  | some _ => x.node.id
  | none => elementSegment

/-- What is wrong with the id of a member, in the order of the tests. -/
def idViolations (x : Visit) (before : List String) : List ConfigurationError :=
  (if x.node.id = "" then [.missingId x.path] else []) ++
  (if '.' ∈ x.node.id.toList then [.separatorInId x.node.id x.path] else []) ++
  (if x.node.id ∈ before then [.duplicateId x.node.id x.path] else [])

/-- A node needs a type or children. -/
def typeViolations (x : Visit) : List ConfigurationError :=
  if x.node.label.type?.isNone ∧ x.node.children?.isNone then
    [.missingTypeOrChildren x.path] else []

/-- What is wrong with a node, whatever is wrong below it. The id of an item
node is not looked at. -/
def violations (x : Visit) : List ConfigurationError :=
  match x.before? with
  | some before => x.idViolations before ++ x.typeViolations
  | none => x.typeViolations

end Visit

mutual

/-- The visits below the node at some steps. -/
def visitsBelow (steps : List String) : Node → List Visit
  | .leaf _ => []
  | .fields _ members => visitsOf steps [] members
  | .element _ item =>
    ⟨item, steps ++ [elementSegment], none⟩ ::
      visitsBelow (steps ++ [elementSegment]) item

/-- The visits of siblings and of all nodes below them, given the ids before. -/
def visitsOf (parent before : List String) : List Node → List Visit
  | [] => []
  | n :: ns =>
    ⟨n, parent ++ [n.id], some before⟩ :: visitsBelow (parent ++ [n.id]) n ++
      visitsOf parent (before ++ [n.id]) ns

end

/-- The visits of a whole forest, in the order of the walk. -/
def visits (nodes : List Node) : List Visit := visitsOf [] [] nodes

/-- All that is wrong with a forest, in the order of the walk. -/
def violations (nodes : List Node) : List ConfigurationError :=
  (visits nodes).flatMap Visit.violations

/-! ## The text of the steps -/

/-- The path that the walk has formed on the way along some steps, none of
which was an empty one. -/
def WrittenAs (steps : List String) (path : String) : Prop :=
  path = ".".intercalate steps ∧ (path = "" → steps = [])

theorem writtenAs_nil : WrittenAs [] "" := ⟨rfl, fun _ => rfl⟩

theorem WrittenAs.join {steps : List String} {path : String} (h : WrittenAs steps path)
    (s : String) : Path.join path s = ".".intercalate (steps ++ [s]) := by
  obtain ⟨rfl, hempty⟩ := h
  by_cases hsteps : steps = []
  · rw [hsteps, String.intercalate_nil, List.nil_append, String.intercalate_singleton]
    exact if_pos rfl
  · rw [Path.join_of_ne (mt hempty hsteps), String.intercalate_append_of_ne_nil hsteps (by simp),
      String.intercalate_singleton]

theorem WrittenAs.snoc {steps : List String} {path : String} (h : WrittenAs steps path)
    {s : String} (hs : s ≠ "") : WrittenAs (steps ++ [s]) (Path.join path s) :=
  ⟨h.join s, fun hempty => absurd hempty (Path.join_ne_empty hs)⟩

/-! ## The walk stops at the head of the list -/

theorem idError?_eq_head? (n : Node) (steps before : List String) :
    idError? before n.id (".".intercalate steps) =
      (Visit.idViolations ⟨n, steps, some before⟩ before).head? := by
  rw [idError?, Visit.idViolations, Visit.path]
  split
  · rfl
  · split
    · rfl
    · split <;> rfl

/-- Siblings one after another, each with its own id first. Only when the id is
good does the walk go on, and then its path is the text of its steps. -/
theorem siblingsError?_eq_head? {parent : String} {steps before : List String}
    {ns : List Node} (hparent : WrittenAs steps parent)
    (hnode : ∀ n ∈ ns, ∀ steps path before?, WrittenAs steps path →
      nodeError? path n = (Visit.typeViolations ⟨n, steps, before?⟩ ++
        (visitsBelow steps n).flatMap Visit.violations).head?) :
    siblingsError? parent before ns =
      ((visitsOf steps before ns).flatMap Visit.violations).head? := by
  induction ns generalizing before with
  | nil => rfl
  | cons n ns ih =>
      have hid : idError? before n.id (Path.join parent n.id) =
          (Visit.idViolations ⟨n, steps ++ [n.id], some before⟩ before).head? := by
        rw [hparent.join, idError?_eq_head?]
      have hrest : siblingsError? parent (before ++ [n.id]) ns = _ :=
        ih fun m hm => hnode m (List.mem_cons_of_mem n hm)
      rw [siblingsError?, visitsOf, List.cons_append, List.flatMap_cons,
        List.flatMap_append, Visit.violations, List.append_assoc, ← List.append_assoc
          (Visit.typeViolations _), List.head?_append, List.head?_append]
      simp only [Option.orElse_eq_orElse, Option.orElse_eq_or]
      rw [← hrest]
      change (idError? before n.id (Path.join parent n.id)).or _ = _
      rw [hid]
      cases hhead : (Visit.idViolations ⟨n, steps ++ [n.id], some before⟩ before).head? with
      | some e => rfl
      | none =>
          have hseg := (idError?_eq_none_iff.mp (hid.trans hhead)).1
          exact congrArg (Option.or · _)
            (hnode n List.mem_cons_self _ _ _ (hparent.snoc hseg.ne_empty))

theorem Visit.typeViolations_eq_nil {x : Visit} (h : x.node.children?.isSome) :
    x.typeViolations = [] := by
  rw [typeViolations, if_neg]
  rintro ⟨-, hnone⟩
  rw [Option.isNone_iff_eq_none.mp hnone] at h
  cases h

theorem nodeError?_eq_head? (n : Node) :
    ∀ steps path before?, WrittenAs steps path →
      nodeError? path n = (Visit.typeViolations ⟨n, steps, before?⟩ ++
        (visitsBelow steps n).flatMap Visit.violations).head? := by
  induction n using Tree.induction with
  | leaf c =>
      intro steps path before? hpath
      rw [nodeError?, visitsBelow, List.flatMap_nil, List.append_nil,
        Visit.typeViolations, Visit.path, ← hpath.1]
      cases h : c.type? <;> simp [Tree.label, Node.children?, h]
  | fields c members ih =>
      intro steps path before? hpath
      rw [Visit.typeViolations_eq_nil rfl]
      exact siblingsError?_eq_head? hpath ih
  | element c item ih =>
      intro steps path before? hpath
      have hitem : elementSegment ≠ "" := by decide
      rw [Visit.typeViolations_eq_nil rfl]
      exact ih _ _ none (hpath.snoc hitem)

theorem siblingsError?_eq_head?_violations (nodes : List Node) :
    siblingsError? "" [] nodes = (violations nodes).head? :=
  siblingsError?_eq_head? writtenAs_nil fun n _ => nodeError?_eq_head? n

theorem new_eq_error_iff {nodes : List Node} {e : ConfigurationError} :
    new nodes = .error e ↔ (violations nodes).head? = some e := by
  rw [← siblingsError?_eq_head?_violations, new]
  split
  · next hnone => simp [hnone]
  · next e' he => simp [he]

theorem new_eq_ok_iff {nodes : List Node} :
    (∃ s, new nodes = .ok s) ↔ WellFormed nodes := by
  constructor
  · rintro ⟨s, hs⟩
    exact (new_ok hs).2
  · intro hwf
    have hnone : siblingsError? "" [] nodes = none :=
      (siblingsError?_eq_none_iff fun n _ => nodeError?_eq_none_iff n).mpr
        ⟨hwf, fun _ _ => List.not_mem_nil⟩
    cases hnew : new nodes with
    | ok s => exact ⟨s, rfl⟩
    | error e =>
        rw [new_eq_error_iff, ← siblingsError?_eq_head?_violations, hnone] at hnew
        cases hnew

/-! ## Where a violation is told -/

theorem steps_visitsOf {ns : List Node} {steps before : List String}
    (hnode : ∀ n ∈ ns, ∀ steps, ∀ x ∈ visitsBelow steps n,
      ∃ parent, x.steps = parent ++ [x.ownStep]) :
    ∀ x ∈ visitsOf steps before ns, ∃ parent, x.steps = parent ++ [x.ownStep] := by
  induction ns generalizing before with
  | nil => exact fun _ hx => nomatch hx
  | cons n ns ih =>
      rw [visitsOf]
      intro x hx
      rcases List.mem_append.mp hx with hx | hx
      · rcases List.mem_cons.mp hx with rfl | hx
        · exact ⟨steps, rfl⟩
        · exact hnode n List.mem_cons_self _ x hx
      · exact ih (fun m hm => hnode m (List.mem_cons_of_mem n hm)) x hx

theorem steps_visitsBelow (n : Node) :
    ∀ steps, ∀ x ∈ visitsBelow steps n, ∃ parent, x.steps = parent ++ [x.ownStep] := by
  induction n using Tree.induction with
  | leaf c => exact fun _ _ hx => nomatch hx
  | fields c members ih => exact fun _ => steps_visitsOf ih
  | element c item ih =>
      intro steps x hx
      rcases List.mem_cons.mp hx with rfl | hx
      · exact ⟨steps, rfl⟩
      · exact ih _ x hx

theorem Visit.mem_violations_iff {x : Visit} {e : ConfigurationError} :
    e ∈ x.violations ↔
      (∃ before, x.before? = some before ∧
        (x.node.id = "" ∧ e = .missingId x.path ∨
          '.' ∈ x.node.id.toList ∧ e = .separatorInId x.node.id x.path ∨
          x.node.id ∈ before ∧ e = .duplicateId x.node.id x.path)) ∨
      x.node.label.type? = none ∧ x.node.children? = none ∧
        e = .missingTypeOrChildren x.path := by
  rw [violations]
  cases x.before? with
  | none => simp [typeViolations, and_assoc]
  | some before => simp [idViolations, typeViolations, and_assoc, or_assoc]

theorem Visit.path_of_mem_violations {x : Visit} {e : ConfigurationError}
    (h : e ∈ x.violations) : e.path = x.path := by
  rcases mem_violations_iff.mp h with
    ⟨before, -, ⟨-, rfl⟩ | ⟨-, rfl⟩ | ⟨-, rfl⟩⟩ | ⟨-, -, rfl⟩
  all_goals rfl

theorem Visit.ownStep_of_missingId {x : Visit} {path : String}
    (h : .missingId path ∈ x.violations) : x.ownStep = "" := by
  rcases mem_violations_iff.mp h with
    ⟨before, hbefore, ⟨hid, -⟩ | ⟨-, he⟩ | ⟨-, he⟩⟩ | ⟨-, -, he⟩
  · rw [ownStep, hbefore, hid]
  all_goals cases he

theorem missingId_path {nodes : List Node} {path : String}
    (h : .missingId path ∈ violations nodes) :
    path = "" ∨ ∃ parent, path = parent ++ "." := by
  obtain ⟨x, hx, he⟩ := List.mem_flatMap.mp h
  obtain ⟨front, hfront⟩ := steps_visitsOf (fun n _ => steps_visitsBelow n) x hx
  have hpath : path = x.path := Visit.path_of_mem_violations he
  rw [Visit.path, hfront, Visit.ownStep_of_missingId he] at hpath
  by_cases hempty : front = []
  · rw [hempty, List.nil_append, String.intercalate_singleton] at hpath
    exact .inl hpath
  · rw [String.intercalate_append_of_ne_nil hempty (by simp),
      String.intercalate_singleton, String.append_empty] at hpath
    exact .inr ⟨_, hpath⟩

/-- Exactly the well-formed forests are schemas. Of every other forest the error
is the first of its violations, told at the steps that lead to its node. -/
theorem new_firstViolation (nodes : List Node) :
    ((∃ s, new nodes = .ok s) ↔ WellFormed nodes) ∧
    (∀ e, new nodes = .error e ↔ (violations nodes).head? = some e) ∧
    (∀ x ∈ visits nodes, (∃ parent, x.steps = parent ++ [x.ownStep]) ∧
      ∀ e ∈ x.violations, e.path = ".".intercalate x.steps) ∧
    ∀ path, new nodes = .error (.missingId path) →
      path = "" ∨ ∃ parent, path = parent ++ "." := by
  refine ⟨new_eq_ok_iff, fun e => new_eq_error_iff, fun x hx => ⟨?_, fun e he => ?_⟩,
    fun path h => ?_⟩
  · exact steps_visitsOf (fun n _ => steps_visitsBelow n) x hx
  · exact Visit.path_of_mem_violations he
  · exact missingId_path (List.mem_of_mem_head? (new_eq_error_iff.mp h))

/-- A list of things of which the items have a member without an id, next to a
second root of the same id without a type. -/
def brokenForest : List Node :=
  [ Node.new "things" |>.withElement
      (Node.elementSchema.withFields [Node.new "name" |>.typed .string, Node.new ""]),
    Node.new "things" ]

theorem new_firstViolation_brokenForest :
    violations brokenForest =
      [.missingId "things.*.", .missingTypeOrChildren "things.*.",
        .duplicateId "things" "things", .missingTypeOrChildren "things"] ∧
    new brokenForest = .error (.missingId "things.*.") ∧ ¬ WellFormed brokenForest ∧
    ("things.*." = "" ∨ ∃ parent, "things.*." = parent ++ ".") := by
  have hall := new_firstViolation brokenForest
  have hviolations : violations brokenForest =
      [.missingId "things.*.", .missingTypeOrChildren "things.*.",
        .duplicateId "things" "things", .missingTypeOrChildren "things"] := by
    decide +kernel
  have hnew : new brokenForest = .error (.missingId "things.*.") := by
    rw [hall.2.1, hviolations]
    rfl
  refine ⟨hviolations, hnew, fun hwf => ?_, hall.2.2.2 _ hnew⟩
  obtain ⟨s, hs⟩ := hall.1.mpr hwf
  rw [hnew] at hs
  cases hs

end Schema

end ConstraintTree

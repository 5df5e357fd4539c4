import ConstraintTree.Proofs.Rewriting

/-!
# The id of an item node

A member is found by its id, and so the id stands in every path that leads to the
member or below it. An item is found by its position in the array. The node for
the items has an id as well, since it is a node like any other, but nobody asks
for it, and it may be empty, or a dotted text, or the id of some other node.

`dropItemIds` takes these ids away, in a forest and in the plan of one. There are
three walks that could tell the difference, and none of them can. The walk that
looks for violations finds the same, compiling ends in the same error or in the
same plan up to these ids (`Plan.compile_dropItemIds`), and a plan finds the same
without them. At an item node there are two things to see, with a lemma for each
walk and each of them: what is below may go without ids by induction, and the id
of the node itself is not looked at, whatever is below (`mapTop`).
-/

namespace ConstraintTree

/-! ## Without these ids -/

namespace Tree

variable {α : Type}

mutual

/-- Changes what item nodes carry, at any depth, and nothing else. -/
def mapItems (f : α → α) : Tree α → Tree α
  | .leaf a => .leaf a
  | .fields a ts => .fields a (mapItemsOfAll f ts)
  | .element a t => .element a ((mapItems f t).mapTop f)

/-- Changes the labels of all item nodes below some trees. -/
def mapItemsOfAll (f : α → α) : List (Tree α) → List (Tree α)
  | [] => []
  | t :: ts => mapItems f t :: mapItemsOfAll f ts

end

variable (f : α → α)

theorem mapItemsOfAll_eq_map (ts : List (Tree α)) :
    mapItemsOfAll f ts = ts.map (mapItems f) := by
  induction ts with
  | nil => rfl
  | cons t ts ih => rw [mapItemsOfAll, ih, List.map_cons]

theorem mapItems_fields (a : α) (ts : List (Tree α)) :
    (fields a ts).mapItems f = .fields a (ts.map (mapItems f)) := by
  rw [mapItems, mapItemsOfAll_eq_map]

theorem label_mapItems (t : Tree α) : (t.mapItems f).label = t.label := by
  cases t <;> rfl

theorem label_mapTop (t : Tree α) : (t.mapTop f).label = f t.label := by
  cases t <;> rfl

end Tree

/-- A constraint without its id. -/
def Constraint.dropId (c : Constraint) : Constraint := { c with id := "" }

/-- A check without its id. -/
def Check.dropId (c : Check) : Check := { c with id := "" }

/-- A node with no ids at the item nodes below it. Its own id stays. -/
def Node.dropItemIds (n : Node) : Node := n.mapItems Constraint.dropId

/-- A plan without the ids of its item nodes. -/
def Plan.dropItemIds (p : Plan) : Plan := p.mapItems Check.dropId

namespace Node

theorem dropItemIds_fields (c : Constraint) (members : List Node) :
    dropItemIds (.fields c members) = .fields c (members.map dropItemIds) :=
  Tree.mapItems_fields _ c members

theorem dropItemIds_element (c : Constraint) (item : Node) :
    dropItemIds (.element c item) =
      .element c ((dropItemIds item).mapTop Constraint.dropId) := rfl

theorem label_dropItemIds (n : Node) : (dropItemIds n).label = n.label :=
  Tree.label_mapItems _ n

end Node

namespace Plan

theorem dropItemIds_fields (c : Check) (members : List Plan) :
    dropItemIds (.fields c members) = .fields c (members.map dropItemIds) :=
  Tree.mapItems_fields _ c members

theorem dropItemIds_element (c : Check) (item : Plan) :
    dropItemIds (.element c item) = .element c ((dropItemIds item).mapTop Check.dropId) := rfl

theorem label_dropItemIds (p : Plan) : (dropItemIds p).label = p.label :=
  Tree.label_mapItems _ p

end Plan

/-! ## Looking for violations -/

namespace Schema

theorem nodeError?_mapTop (path : String) (n : Node) :
    nodeError? path (n.mapTop Constraint.dropId) = nodeError? path n := by
  cases n <;> rfl

theorem siblingsError?_dropItemIds {parent : String} {before : List String} {ns : List Node}
    (hnode : ∀ n ∈ ns, ∀ path, nodeError? path n.dropItemIds = nodeError? path n) :
    siblingsError? parent before (ns.map Node.dropItemIds) = siblingsError? parent before ns := by
  induction ns generalizing before with
  | nil => rfl
  | cons n ns ih =>
      rw [List.map_cons, siblingsError?, siblingsError?, Node.label_dropItemIds,
        hnode n List.mem_cons_self, ih fun m hm => hnode m (List.mem_cons_of_mem n hm)]

theorem nodeError?_dropItemIds (n : Node) :
    ∀ path, nodeError? path n.dropItemIds = nodeError? path n := by
  induction n using Tree.induction with
  | leaf c => exact fun path => rfl
  | fields c members ih =>
      intro path
      rw [Node.dropItemIds_fields, nodeError?, nodeError?]
      exact siblingsError?_dropItemIds ih
  | element c item ih =>
      intro path
      rw [Node.dropItemIds_element, nodeError?, nodeError?, nodeError?_mapTop]
      exact ih _

end Schema

/-! ## Compiling -/

theorem Check.new_dropId (r : Registry) (path : String) (c : Constraint)
    (expected? : Option DataType) :
    Check.new r path c.dropId expected? = (Check.new r path c expected?).map Check.dropId := by
  unfold Check.new Constraint.dropId
  cases expected? with
  | none => rfl
  | some t =>
      cases RequiredCheck.new r path c.required? with
      | error e => rfl
      | ok required? => cases c.rules.mapM (Bound.new r path) <;> rfl

theorem Node.effectiveType?_mapTop (n : Node) :
    Node.effectiveType? (n.mapTop Constraint.dropId) = n.effectiveType? := by
  cases n <;> rfl

theorem Node.effectiveType?_dropItemIds (n : Node) :
    n.dropItemIds.effectiveType? = n.effectiveType? := by
  cases n <;> rfl

namespace Plan

variable (r : Registry)

/-- The plan of a node whose check is made already. -/
def compileUnder (path : String) (check : Check) : Node → Except ConfigurationError Plan
  | .leaf _ => .ok (.leaf check)
  | .fields _ members => (compileAll r path members).map (.fields check)
  | .element _ item =>
    (compile r (Path.join path Schema.elementSegment) item).map (.element check)

theorem compile_eq_bind (path : String) (n : Node) :
    compile r path n =
      (Check.new r path n.label n.effectiveType?).bind (compileUnder r path · n) := by
  cases n <;> rfl

theorem compileUnder_mapTop (path : String) (check : Check) (n : Node) :
    compileUnder r path check.dropId (n.mapTop Constraint.dropId) =
      (compileUnder r path check n).map (·.mapTop Check.dropId) := by
  cases n with
  | leaf c => rfl
  | fields c members =>
      rw [Tree.mapTop, compileUnder, compileUnder]
      cases compileAll r path members <;> rfl
  | element c item =>
      rw [Tree.mapTop, compileUnder, compileUnder]
      cases compile r (Path.join path Schema.elementSegment) item <;> rfl

theorem compile_mapTop (path : String) (n : Node) :
    compile r path (n.mapTop Constraint.dropId) =
      (compile r path n).map (·.mapTop Check.dropId) := by
  rw [compile_eq_bind, compile_eq_bind, Tree.label_mapTop, Node.effectiveType?_mapTop,
    Check.new_dropId]
  cases Check.new r path n.label n.effectiveType? with
  | error e => rfl
  | ok check => exact compileUnder_mapTop r path check n

theorem compile_dropItemIds_of_under {path : String} {n : Node}
    (h : ∀ check, compileUnder r path check n.dropItemIds =
      (compileUnder r path check n).map dropItemIds) :
    compile r path n.dropItemIds = (compile r path n).map dropItemIds := by
  rw [compile_eq_bind, compile_eq_bind, Node.label_dropItemIds, Node.effectiveType?_dropItemIds]
  cases Check.new r path n.label n.effectiveType? with
  | error e => rfl
  | ok check => exact h check

theorem compileAll_dropItemIds {parent : String} {ns : List Node}
    (hnode : ∀ n ∈ ns, ∀ path,
      compile r path n.dropItemIds = (compile r path n).map dropItemIds) :
    compileAll r parent (ns.map Node.dropItemIds) =
      (compileAll r parent ns).map (List.map dropItemIds) := by
  induction ns with
  | nil => rfl
  | cons n ns ih =>
      rw [List.map_cons, compileAll, compileAll, Node.label_dropItemIds,
        hnode n List.mem_cons_self, ih fun m hm => hnode m (List.mem_cons_of_mem n hm)]
      cases compile r (Path.join parent n.label.id) n with
      | error e => rfl
      | ok p => cases compileAll r parent ns <;> rfl

/-- A node without these ids ends in the same error, or in the plan without them. -/
theorem compile_dropItemIds (n : Node) :
    ∀ path, compile r path n.dropItemIds = (compile r path n).map dropItemIds := by
  induction n using Tree.induction with
  | leaf c => exact fun path => compile_dropItemIds_of_under r fun check => rfl
  | fields c members ih =>
      refine fun path => compile_dropItemIds_of_under r fun check => ?_
      rw [Node.dropItemIds_fields, compileUnder, compileUnder, compileAll_dropItemIds r ih]
      cases compileAll r path members with
      | error e => rfl
      | ok ps => exact congrArg Except.ok (dropItemIds_fields check ps).symm
  | element c item ih =>
      refine fun path => compile_dropItemIds_of_under r fun check => ?_
      rw [Node.dropItemIds_element, compileUnder, compileUnder, compile_mapTop, ih]
      cases compile r (Path.join path Schema.elementSegment) item <;> rfl

/-! ## Running -/

variable (root : Json)

theorem wording?_mapTop (path : String) (p : Plan) :
    wording? (p.mapTop Check.dropId) root path = p.wording? root path := by
  have hchildren : ∀ k, childrenAccept (p.mapTop Check.dropId) k = p.childrenAccept k := by
    intro k
    cases p <;> cases k <;> rfl
  refine wording?_congr (mismatch?_congr ?_ ?_ hchildren _) ?_ (fun _ => ?_) fun _ => ?_
  -- Of the label everything is asked for but the id.
  all_goals
    rw [Tree.label_mapTop]
    rfl

theorem findings_mapTop (path : String) (p : Plan) :
    findings root path (p.mapTop Check.dropId) = p.findings root path := by
  refine findings_eq_of_below (wording?_mapTop root path p) ?_
  cases p <;> rfl

theorem memberFindings_dropItemIds {parent : String} {ps : List Plan}
    (hplan : ∀ p ∈ ps, ∀ path, p.dropItemIds.findings root path = p.findings root path) :
    memberFindings root parent (ps.map dropItemIds) = memberFindings root parent ps := by
  induction ps with
  | nil => rfl
  | cons p ps ih =>
      rw [List.map_cons, memberFindings, memberFindings, label_dropItemIds,
        hplan p List.mem_cons_self, ih fun q hq => hplan q (List.mem_cons_of_mem p hq)]

/-- A plan finds the same without these ids. -/
theorem findings_dropItemIds (p : Plan) :
    ∀ path, p.dropItemIds.findings root path = p.findings root path := by
  induction p using Tree.induction with
  | leaf c => exact fun path => rfl
  | fields c members ih =>
      intro path
      rw [dropItemIds_fields]
      refine findings_eq_of_below (wording?_eq_of_label ?_ (fun k => ?_) root path) ?_
      · rfl
      · cases k <;> rfl
      · exact memberFindings_dropItemIds root ih
  | element c item ih =>
      intro path
      rw [dropItemIds_element]
      refine findings_eq_of_below (wording?_eq_of_label ?_ (fun k => ?_) root path) ?_
      · rfl
      · cases k <;> rfl
      · rw [below, below]
        split
        · next xs _ =>
            exact congrArg (List.range xs.length).flatMap
              (funext fun i => (findings_mapTop root _ _).trans (ih _))
        · rfl

end Plan

/-! ## A whole validator -/

section

variable {ε α β : Type} {x y : Except ε α} {f : α → β}

theorem eq_error_iff_of_map_eq (h : x.map f = y.map f) (e : ε) :
    x = .error e ↔ y = .error e := by
  cases x <;> cases y <;> simp_all [Except.map]

theorem exists_eq_ok_iff_of_map_eq (h : x.map f = y.map f) :
    (∃ a, x = .ok a) ↔ ∃ a, y = .ok a := by
  cases x <;> cases y <;> simp_all [Except.map]

theorem apply_eq_of_map_eq (h : x.map f = y.map f) {a b : α} (ha : x = .ok a)
    (hb : y = .ok b) : f a = f b := by
  rw [ha, hb] at h
  exact Except.ok.inj h

end

theorem Schema.new_of_siblingsError? {nodes : List Node}
    (h : siblingsError? "" [] nodes = none) : Schema.new nodes = .ok ⟨nodes, h⟩ := by
  rw [Schema.new]
  split
  · rfl
  · next e he => rw [h] at he; cases he

namespace Validator

variable {nodes nodes' : List Node} {caller : Registry}

theorem new_eq_error_of_siblingsError? {e : ConfigurationError}
    (h : Schema.siblingsError? "" [] nodes = some e) : Validator.new nodes caller = .error e := by
  rw [Schema.siblingsError?_eq_head?_violations] at h
  exact new_eq_error_of_schema (Schema.new_eq_error_iff.mpr h)

/-- What a validator makes of data comes from its plan alone. -/
theorem map_validate_new (h : Schema.siblingsError? "" [] nodes = none) :
    (Validator.new nodes caller).map validate =
      (Plan.compileAll (Registry.builtin.merge caller) "" nodes).map fun plans data =>
        Report.toExcept ⟨(Plan.memberFindings data "" plans).map Finding.message⟩ () := by
  rw [Validator.new, Schema.new_of_siblingsError? h]
  change ((Plan.compileAll _ "" nodes >>= _ : Except _ Validator).map validate) = _
  cases Plan.compileAll (Registry.builtin.merge caller) "" nodes <;> rfl

theorem map_validate_dropItemIds (nodes : List Node) (caller : Registry) :
    (Validator.new (nodes.map Node.dropItemIds) caller).map validate =
      (Validator.new nodes caller).map validate := by
  have hsame : Schema.siblingsError? "" [] (nodes.map Node.dropItemIds) =
      Schema.siblingsError? "" [] nodes :=
    Schema.siblingsError?_dropItemIds fun n _ => Schema.nodeError?_dropItemIds n
  cases h : Schema.siblingsError? "" [] nodes with
  | some e =>
      rw [new_eq_error_of_siblingsError? h, new_eq_error_of_siblingsError? (hsame.trans h)]
  | none =>
      rw [map_validate_new h, map_validate_new (hsame.trans h),
        Plan.compileAll_dropItemIds _ fun n _ => Plan.compile_dropItemIds _ n]
      cases Plan.compileAll (Registry.builtin.merge caller) "" nodes with
      | error e => rfl
      | ok plans =>
          refine congrArg Except.ok (funext fun data => ?_)
          exact congrArg (fun fs => Report.toExcept ⟨fs.map Finding.message⟩ ())
            (Plan.memberFindings_dropItemIds data fun p _ => Plan.findings_dropItemIds data p)

/-- Two forests that differ only in the ids of item nodes end in the same error,
or in validators that say the same about any data. -/
theorem validate_eq_of_dropItemIds
    (h : nodes.map Node.dropItemIds = nodes'.map Node.dropItemIds) (caller : Registry) :
    ((∃ v, Validator.new nodes caller = .ok v) ↔ ∃ v, Validator.new nodes' caller = .ok v) ∧
    (∀ e, Validator.new nodes caller = .error e ↔ Validator.new nodes' caller = .error e) ∧
    ∀ v v', Validator.new nodes caller = .ok v → Validator.new nodes' caller = .ok v' →
      ∀ data, v.validate data = v'.validate data := by
  have hmap : (Validator.new nodes caller).map validate =
      (Validator.new nodes' caller).map validate := by
    rw [← map_validate_dropItemIds, h, map_validate_dropItemIds]
  exact ⟨exists_eq_ok_iff_of_map_eq hmap, eq_error_iff_of_map_eq hmap,
    fun v v' hv hv' data => congrFun (apply_eq_of_map_eq hmap hv hv') data⟩

/-- Tables of rows of cells, with ids for the node of a table, of a row and of a cell. -/
def tables (table row cell : String) (type? : Option DataType) : List Node :=
  [ Node.new "tables" |>.withElement
      (Node.new table |>.withElement
        (Node.new row |>.withFields
          [ Node.new "cells" |>.withElement (.leaf ⟨cell, type?, none, []⟩) ])) ]

/-- A table of one row with two cells. -/
def oneTable : Json :=
  .object [("tables", .arr [.arr [.object [("cells", .arr [.bool true, .str "x"])]]])]

/-- Ids that are empty, taken, dotted or a star. Without a type for the cells there is
an error, and its path has a star for every item node. -/
theorem validate_eq_of_dropItemIds_tables :
    ((tables "" "" "" (some .boolean)).map Node.dropItemIds =
        (tables "tables" "a.b" "*" (some .boolean)).map Node.dropItemIds ∧
      ∃ v v', Validator.new (tables "" "" "" (some .boolean)) .empty = .ok v ∧
        Validator.new (tables "tables" "a.b" "*" (some .boolean)) .empty = .ok v' ∧
        v.validate oneTable = v'.validate oneTable ∧
        v'.messages oneTable =
          [⟨"tables.0.0.cells.1", "tables.0.0.cells.1 is not of type boolean (got string)"⟩]) ∧
    (tables "" "" "" none).map Node.dropItemIds =
      (tables "tables" "a.b" "*" none).map Node.dropItemIds ∧
    Validator.new (tables "tables" "a.b" "*" none) .empty =
      .error (.missingTypeOrChildren "tables.*.*.cells.*") := by
  have htyped : (tables "" "" "" (some .boolean)).map Node.dropItemIds =
      (tables "tables" "a.b" "*" (some .boolean)).map Node.dropItemIds := rfl
  have huntyped : (tables "" "" "" none).map Node.dropItemIds =
      (tables "tables" "a.b" "*" none).map Node.dropItemIds := rfl
  have hsame := (validate_eq_of_dropItemIds htyped .empty).2.2 _ _ rfl rfl oneTable
  have herror := (validate_eq_of_dropItemIds huntyped .empty).2.1
  exact ⟨⟨htyped, _, _, rfl, rfl, hsame, rfl⟩, huntyped, (herror _).mp rfl⟩

end Validator

end ConstraintTree

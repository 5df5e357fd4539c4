import ConstraintTree.Schema.Encode
import ConstraintTree.Proofs.Compile
import ConstraintTree.Proofs.Spelling

/-!
# Writing a schema down and reading it back

Every node can be written, and what is written is read back. Only one thing may
change on the way: a literal text that looks like the value under validation or
like a path is written as it stands, and the reader takes it for what it looks
like. `reread` is that change, argument by argument, and it is the whole round
trip: a written node spells its reread node (`Node.spells_reread`). So the round
trip gives back the nodes without such literals and no others, writing again
gives the same document, and since no document spells a literal of that kind a
node that was read once comes back every time.

Two nodes are also compared by `==`, which tells numbers apart by kind and value.
It is coarser than equality, but every node is `==` to itself and no literal is
`==` to a path, so the two single out the same nodes here.
-/

namespace ConstraintTree

/-! ## What comes back -/

/-- The argument that comes back when one is written and read. -/
def Argument.reread (a : Argument) : Argument := .ofJson a.toJson

/-- A call with every argument written and read. -/
def Call.reread (c : Call) : Call := { c with arguments := c.arguments.map Argument.reread }

/-- A `required` with its call written and read. -/
def Required.reread : Required → Required
  | .flag b => .flag b
  | .message template => .message template
  | .when call => .when call.reread

/-- A constraint with all its calls written and read. -/
def Constraint.reread (c : Constraint) : Constraint :=
  { c with required? := c.required?.map Required.reread, rules := c.rules.map Call.reread }

namespace Node

mutual

/-- The node that comes back when a node is written and read. -/
def reread : Node → Node
  | .leaf c => .leaf c.reread
  | .fields c members => .fields c.reread (rereadAll members)
  | .element c item => .element c.reread (reread item)

/-- Nodes, each written and read. -/
def rereadAll : List Node → List Node
  | [] => []
  | n :: ns => reread n :: rereadAll ns

end

theorem rereadAll_eq_map (ns : List Node) : rereadAll ns = ns.map reread := by
  induction ns with
  | nil => rfl
  | cons n ns ih => rw [rereadAll, ih, List.map_cons]

theorem listToJson_eq_map (ns : List Node) : listToJson ns = ns.map toJson := by
  induction ns with
  | nil => rfl
  | cons n ns ih => rw [listToJson, ih, List.map_cons]

theorem label_reread (n : Node) : (reread n).label = n.label.reread := by
  cases n <;> rfl

end Node

/-! ## A written node spells its reread node -/

namespace Json

theorem lookup_memberOf (k key : String) (v? : Option Json) :
    (memberOf key v?).lookup k = if k = key then v? else none := by
  cases v? with
  | none => simp [memberOf]
  | some v =>
      rw [memberOf, List.lookup_cons, List.lookup_nil]
      split
      · next h => rw [if_pos (beq_iff_eq.mp h)]
      · next h => rw [if_neg (by simpa using h)]

theorem either?_of_none {ms : Members Json none} {key other : String}
    (h : ms.lookup other = none) : either? ms key other = some (ms.lookup key) := by
  rw [either?, h]
  cases ms.lookup key <;> rfl

theorem reverse_memberOf (key : String) (v? : Option Json) :
    (memberOf key v?).reverse = memberOf key v? := by
  cases v? <;> rfl

/-- What is written for a list: nothing if it is empty. -/
def listField (items : List Json) : Option Json :=
  if items.isEmpty then none else some (.arr items)

/-- What is written for an id: nothing if it is empty. -/
def textField (s : String) : Option Json := if s = "" then none else some (.str s)

theorem memberOfList_eq (key : String) (items : List Json) :
    memberOfList key items = memberOf key (listField items) := by
  rw [memberOfList, listField]
  split <;> rfl

theorem spellsText_textField (s : String) : SpellsText (textField s) s := by
  rw [textField]
  split
  · next h => rw [h]; exact .absent
  · exact .present

section

variable {α : Type} {spells : Json → α → Prop} {write : α → Json} {f : α → α}
  (hwrite : ∀ a, spells (write a) (f a))

include hwrite

theorem spellsOption_map (a? : Option α) :
    SpellsOption spells (a?.map write) (a?.map f) := by
  cases a? with
  | none => exact .absent
  | some a => exact .present (hwrite a)

theorem spellsList_map (as : List α) :
    SpellsList spells (listField (as.map write)) (as.map f) := by
  rw [listField]
  split
  · next h =>
      rw [List.isEmpty_iff, List.map_eq_nil_iff] at h
      rw [h]
      exact .absent
  · refine .present ?_
    rw [List.forall₂_map_left_iff, List.forall₂_map_right_iff, List.forall₂_same]
    exact fun a _ => hwrite a

end

end Json

theorem DataType.spells_toJson (t : DataType) : DataType.Spells t.toJson t := .name t

theorem Argument.spells_reread (a : Argument) : Argument.Spells a.toJson a.reread :=
  spells_ofJson a.toJson

theorem Call.toJson_eq (c : Call) :
    c.toJson = .object (Json.memberOf "arguments"
        (Json.listField (c.arguments.map Argument.toJson)) ++
      Json.memberOf "function" (some (.str c.function)) ++
      Json.memberOf "message" (c.message?.map .str)) := by
  rw [toJson, Json.memberOfList_eq]
  rfl

theorem Call.spells_reread (c : Call) : Call.Spells c.toJson c.reread := by
  have hlists : Json.Lists keys c.toJson [some (.str c.function),
      Json.listField (c.arguments.map Argument.toJson), c.message?.map .str] := by
    rw [toJson_eq, Json.object, lists_obj_iff, Json.either?_of_none, Json.either?_of_none]
    all_goals simp [Members.lookup_ofList, List.lookup_append, Json.reverse_memberOf,
      Json.lookup_memberOf]
  have hmessage : Json.SpellsOption (fun v s => v = .str s) (c.message?.map .str)
      c.message? := by
    cases c.message? with
    | none => exact .absent
    | some template => exact .present rfl
  exact .call hlists (Json.spellsList_map Argument.spells_reread c.arguments) hmessage

theorem Required.spells_reread (required : Required) :
    Required.Spells required.toJson required.reread := by
  cases required with
  | flag b => exact .flag b
  | message template => exact .message template
  | when call => exact .when call.spells_reread

theorem Constraint.toJson_eq (c : Constraint) (children? : Option Json) :
    c.toJson children? = .object (Json.memberOf "children" children? ++
      Json.memberOf "id" (Json.textField c.id) ++
      Json.memberOf "required" (c.required?.map Required.toJson) ++
      Json.memberOf "type" (c.type?.map DataType.toJson) ++
      Json.memberOf "validations" (Json.listField (c.rules.map Call.toJson))) := by
  have hid : (if c.id = "" then [] else [("id", Json.str c.id)]) =
      Json.memberOf "id" (Json.textField c.id) := by
    rw [Json.textField]
    split <;> rfl
  rw [toJson, Json.memberOfList_eq, hid]

namespace Node

theorem toJson_eq (n : Node) :
    n.toJson = n.label.toJson (n.children?.map Children.toJson) := by
  cases n <;> rfl

theorem lists_toJson (c : Constraint) (children? : Option Json) :
    Json.Lists keys (c.toJson children?) [Json.textField c.id, c.type?.map DataType.toJson,
      c.required?.map Required.toJson, Json.listField (c.rules.map Call.toJson),
      children?] := by
  rw [Constraint.toJson_eq, Json.object, lists_obj_iff]
  simp [Members.lookup_ofList, List.lookup_append, Json.reverse_memberOf, Json.lookup_memberOf]

/-- A written node spells its reread node as soon as its children do. -/
theorem spells_reread_of_children {n : Node}
    (hchildren : Json.SpellsOption Children.Spells (n.children?.map Children.toJson)
      (reread n).children?) : Spells n.toJson (reread n) := by
  rw [toJson_eq]
  refine .node (lists_toJson n.label _) ?_ ?_ ?_ ?_ hchildren
  · rw [label_reread]
    exact Json.spellsText_textField n.label.id
  · rw [label_reread]
    have htype := Json.spellsOption_map DataType.spells_toJson n.label.type?
    rwa [Option.map_id'] at htype
  · rw [label_reread]
    exact Json.spellsOption_map Required.spells_reread n.label.required?
  · rw [label_reread]
    exact Json.spellsList_map Call.spells_reread n.label.rules

theorem spells_reread (n : Node) : Spells n.toJson (reread n) := by
  induction n using Tree.induction with
  | leaf c => exact spells_reread_of_children .absent
  | fields c members ih =>
      refine spells_reread_of_children (.present (.fields ?_))
      rw [listToJson_eq_map, rereadAll_eq_map, List.forall₂_map_left_iff,
        List.forall₂_map_right_iff, List.forall₂_same]
      exact ih
  | element c item ih =>
      refine spells_reread_of_children (.present (.element ih ?_))
      show toJson item ≠ _
      rw [toJson_eq, Constraint.toJson_eq]
      exact fun h => nomatch h

end Node

/-! ## What stays as it is -/

theorem Argument.toJson_ofJson (v : Json) : (ofJson v).toJson = v := by
  have h := spells_ofJson v
  generalize ofJson v = a at h ⊢
  cases h with
  | target => rfl
  | path p => rfl
  | literal => rfl

theorem Argument.Spells.not_reserved {v : Json} {a : Argument} (h : Argument.Spells v a) :
    ¬ a.Reserved := by
  cases h with
  | target =>
      rintro ⟨s, hs, -⟩
      cases hs
  | path p =>
      rintro ⟨s, hs, -⟩
      cases hs
  | literal h => exact h

/-- Only a reserved literal is taken for something else. -/
theorem Argument.reread_eq_self {a : Argument} (h : ¬ a.Reserved) : a.reread = a := by
  cases a with
  | literal v => exact ofJson_literal h
  | target => rfl
  | path p => exact ofJson_reserved_path p

theorem Call.toJson_reread (c : Call) : c.reread.toJson = c.toJson := by
  have harguments : c.reread.arguments.map Argument.toJson =
      c.arguments.map Argument.toJson := by
    rw [reread, List.map_map]
    exact List.map_congr_left fun a _ => Argument.toJson_ofJson a.toJson
  rw [toJson_eq, toJson_eq, harguments]
  rfl

theorem Required.toJson_reread (required : Required) :
    required.reread.toJson = required.toJson := by
  cases required with
  | flag b => rfl
  | message template => rfl
  | when call => exact call.toJson_reread

theorem Constraint.toJson_reread (c : Constraint) (children? : Option Json) :
    c.reread.toJson children? = c.toJson children? := by
  have hrequired : c.reread.required?.map Required.toJson =
      c.required?.map Required.toJson := by
    rw [reread, Option.map_map]
    exact Option.map_congr fun required _ => required.toJson_reread
  have hrules : c.reread.rules.map Call.toJson = c.rules.map Call.toJson := by
    rw [reread, List.map_map]
    exact List.map_congr_left fun call _ => call.toJson_reread
  rw [toJson_eq, toJson_eq, hrequired, hrules]
  rfl

theorem Node.toJson_reread (n : Node) : (reread n).toJson = n.toJson := by
  induction n using Tree.induction with
  | leaf c => exact c.toJson_reread none
  | fields c members ih =>
      have hmembers : listToJson (rereadAll members) = listToJson members := by
        rw [listToJson_eq_map, listToJson_eq_map, rereadAll_eq_map, List.map_map]
        exact List.map_congr_left ih
      rw [reread, toJson, toJson, hmembers, c.toJson_reread]
  | element c item ih =>
      rw [reread, toJson, toJson, ih, c.toJson_reread]

/-! ## Nodes that come back as they were -/

theorem map_eq_self {α : Type} {f : α → α} {as : List α} (h : ∀ a ∈ as, f a = a) :
    as.map f = as := by
  rw [List.map_congr_left h, List.map_id']

/-- No literal argument of a call is written like another argument. -/
def Call.IsPlain (c : Call) : Prop := ∀ a ∈ c.arguments, ¬ a.Reserved

theorem Call.reread_eq_self {c : Call} (h : c.IsPlain) : c.reread = c := by
  have harguments : c.arguments.map Argument.reread = c.arguments :=
    map_eq_self fun a ha => Argument.reread_eq_self (h a ha)
  rw [reread, harguments]

theorem Constraint.reread_eq_self {c : Constraint} (h : ∀ call ∈ c.calls, call.IsPlain) :
    c.reread = c := by
  have hrequired : c.required?.map Required.reread = c.required? := by
    match hc : c.required? with
    | none => rfl
    | some (.flag _) => rfl
    | some (.message _) => rfl
    | some (.when call) =>
        have hcall := h call (mem_calls_iff.mpr (.inl hc))
        rw [Option.map_some, Required.reread, Call.reread_eq_self hcall]
  have hrules : c.rules.map Call.reread = c.rules :=
    map_eq_self fun call hcall =>
      Call.reread_eq_self (h call (mem_calls_iff.mpr (.inr hcall)))
  rw [reread, hrequired, hrules]

theorem Node.reread_eq_self {n : Node} (h : ∀ call ∈ n.calls, call.IsPlain) :
    reread n = n := by
  induction n using Tree.induction with
  | leaf c => rw [reread, Constraint.reread_eq_self h]
  | fields c members ih =>
      have hc : c.reread = c :=
        Constraint.reread_eq_self fun call hcall => h call (List.mem_append_left _ hcall)
      have hmembers : members.map reread = members :=
        map_eq_self fun m hm => ih m hm fun call hcall => h call (calls_member hm hcall)
      rw [reread, hc, rereadAll_eq_map, hmembers]
  | element c item ih =>
      have hc : c.reread = c :=
        Constraint.reread_eq_self fun call hcall => h call (List.mem_append_left _ hcall)
      rw [reread, hc, ih fun call hcall => h call (calls_item hcall)]

/-! ## Nodes that come back equal -/

section

variable {α : Type} [BEq α] {f : α → α}

theorem beq_self_of_map_beq {as : List α} (h : (as.map f == as) = true) :
    ∀ a ∈ as, (f a == a) = true := by
  induction as with
  | nil => exact List.forall_mem_nil _
  | cons a as ih =>
      rw [List.map_cons, List.cons_beq_cons, Bool.and_eq_true] at h
      exact List.forall_mem_cons.mpr ⟨h.1, ih h.2⟩

end

theorem Tree.sameList_eq_beq {α : Type} [BEq α] (ts us : List (Tree α)) :
    sameList (· == ·) ts us = (ts == us) := by
  induction ts generalizing us with
  | nil => cases us <;> rfl
  | cons t ts ih =>
      cases us with
      | nil => rfl
      | cons u us => rw [sameList, ih, List.cons_beq_cons]; rfl

theorem Argument.not_reserved_of_beq {a : Argument} (h : (a.reread == a) = true) :
    ¬ a.Reserved := by
  rintro ⟨s, rfl, hs⟩
  have hspells := spells_reread (.literal (.str s))
  generalize reread (.literal (.str s)) = b at h hspells
  cases hspells with
  | target => cases h
  | path p => cases h
  | literal hnot => exact hnot ⟨s, rfl, hs⟩

theorem Call.isPlain_of_beq {c : Call} (h : (c.reread == c) = true) : c.IsPlain := by
  change (c.function == c.function && (c.arguments.map Argument.reread == c.arguments &&
    c.message? == c.message?)) = true at h
  rw [Bool.and_eq_true, Bool.and_eq_true] at h
  exact fun a ha => Argument.not_reserved_of_beq (beq_self_of_map_beq h.2.1 a ha)

theorem Constraint.isPlain_of_beq {c : Constraint} (h : (c.reread == c) = true) :
    ∀ call ∈ c.calls, call.IsPlain := by
  change (c.id == c.id && (c.type? == c.type? &&
    (c.required?.map Required.reread == c.required? &&
      c.rules.map Call.reread == c.rules))) = true at h
  rw [Bool.and_eq_true, Bool.and_eq_true, Bool.and_eq_true] at h
  obtain ⟨-, -, hrequired, hrules⟩ := h
  intro call hcall
  rcases mem_calls_iff.mp hcall with hcall | hcall
  · rw [hcall] at hrequired
    exact Call.isPlain_of_beq hrequired
  · exact Call.isPlain_of_beq (beq_self_of_map_beq hrules call hcall)

theorem Node.isPlain_of_beq {n : Node} (h : (reread n == n) = true) :
    ∀ call ∈ n.calls, call.IsPlain := by
  induction n using Tree.induction with
  | leaf c => exact Constraint.isPlain_of_beq h
  | fields c members ih =>
      change (c.reread == c && Tree.sameList (· == ·) (rereadAll members) members) = true at h
      rw [Bool.and_eq_true, Tree.sameList_eq_beq, rereadAll_eq_map] at h
      have hmembers := beq_self_of_map_beq h.2
      intro call hcall
      rw [calls, callsOfAll_eq_flatMap] at hcall
      rcases List.mem_append.mp hcall with hcall | hcall
      · exact Constraint.isPlain_of_beq h.1 call hcall
      · obtain ⟨m, hm, hcall⟩ := List.mem_flatMap.mp hcall
        exact ih m hm (hmembers m hm) call hcall
  | element c item ih =>
      change (c.reread == c && reread item == item) = true at h
      rw [Bool.and_eq_true] at h
      intro call hcall
      rcases List.mem_append.mp hcall with hcall | hcall
      · exact Constraint.isPlain_of_beq h.1 call hcall
      · exact ih h.2 call hcall

/-! ## The equality of nodes -/

instance : ReflBEq Binary64 := ⟨fun {x} => beq_self_eq_true x.units⟩

instance : ReflBEq Number where
  rfl {n} := by
    cases n with
    | int n => exact beq_self_eq_true n
    | float x => exact beq_self_eq_true x

theorem Json.sameItems_self {xs : List Json} (h : ∀ x ∈ xs, same x x = true) :
    sameItems xs xs = true := by
  induction xs with
  | nil => rfl
  | cons x xs ih =>
      rw [sameItems, Bool.and_eq_true]
      exact ⟨h x List.mem_cons_self, ih fun y hy => h y (List.mem_cons_of_mem x hy)⟩

theorem Json.sameMembers_self {b : Option String} {ms : Members Json b}
    (h : ∀ m ∈ ms.toList, same m.2 m.2 = true) : sameMembers ms ms = true := by
  induction ms with
  | nil => rfl
  | cons k x _ ms ih =>
      obtain ⟨hx, hms⟩ := List.forall_mem_cons.mp h
      rw [sameMembers, Bool.and_eq_true, Bool.and_eq_true]
      exact ⟨⟨beq_self_eq_true k, hx⟩, ih hms⟩

theorem Json.same_self (v : Json) : same v v = true := by
  induction v using Json.induction with
  | null => rfl
  | bool b => exact beq_self_eq_true b
  | num n => exact beq_self_eq_true n
  | str s => exact beq_self_eq_true s
  | arr xs ih => exact sameItems_self ih
  | obj ms ih => exact sameMembers_self ih

instance : ReflBEq Argument where
  rfl {a} := by
    cases a with
    | literal v => exact v.same_self
    | target => rfl
    | path p => exact beq_self_eq_true p

instance : ReflBEq Call where
  rfl {c} := by
    change (c.function == c.function && (c.arguments == c.arguments &&
      c.message? == c.message?)) = true
    simp only [beq_self_eq_true, Bool.and_self]

instance : ReflBEq Required where
  rfl {required} := by
    cases required with
    | flag b => exact beq_self_eq_true b
    | message template => exact beq_self_eq_true template
    | when call => exact beq_self_eq_true call

instance : ReflBEq Constraint where
  rfl {c} := by
    change (c.id == c.id && (c.type? == c.type? && (c.required? == c.required? &&
      c.rules == c.rules))) = true
    simp only [beq_self_eq_true, Bool.and_self]

theorem Tree.sameList_self {α : Type} [BEq α] {ts : List (Tree α)}
    (h : ∀ t ∈ ts, (t == t) = true) : sameList (· == ·) ts ts = true := by
  induction ts with
  | nil => rfl
  | cons t ts ih =>
      rw [sameList, Bool.and_eq_true]
      exact ⟨h t List.mem_cons_self, ih fun u hu => h u (List.mem_cons_of_mem t hu)⟩

instance {α : Type} [BEq α] [ReflBEq α] : ReflBEq (Tree α) where
  rfl {t} := by
    induction t using Tree.induction with
    | leaf a => exact beq_self_eq_true a
    | fields a ts ih =>
        change (a == a && Tree.sameList (· == ·) ts ts) = true
        rw [beq_self_eq_true, Tree.sameList_self ih]
        rfl
    | element a t ih =>
        change (a == a && t == t) = true
        rw [beq_self_eq_true, ih]
        rfl

/-! ## What was read is plain -/

theorem Json.SpellsList.exists_of_mem {α : Type} {spells : Json → α → Prop}
    {field : Option Json} {as : List α} (h : SpellsList spells field as) {a : α}
    (ha : a ∈ as) : ∃ v, spells v a := by
  cases h with
  | absent => cases ha
  | present h =>
      induction h with
      | nil => cases ha
      | cons hx _ ih =>
          rcases List.mem_cons.mp ha with rfl | ha
          · exact ⟨_, hx⟩
          · exact ih ha

theorem Call.Spells.isPlain {v : Json} {c : Call} (h : Call.Spells v c) : c.IsPlain := by
  intro a ha
  cases h with
  | call _ harguments =>
      obtain ⟨x, hx⟩ := harguments.exists_of_mem ha
      exact hx.not_reserved

namespace Node

theorem Spells.label_isPlain {v : Json} {n : Node} (h : Spells v n) :
    ∀ call ∈ n.label.calls, call.IsPlain := by
  cases h with
  | node _ _ _ hrequired hrules =>
      intro call hcall
      rcases Constraint.mem_calls_iff.mp hcall with hcall | hcall
      · rw [hcall] at hrequired
        cases hrequired with
        | present h =>
            cases h with
            | when h => exact h.isPlain
      · obtain ⟨x, hx⟩ := hrules.exists_of_mem hcall
        exact hx.isPlain

theorem Spells.children {v : Json} {n : Node} {children : Children} (h : Spells v n)
    (hchildren : n.children? = some children) : ∃ x, Children.Spells x children := by
  cases h with
  | node _ _ _ _ _ hspells =>
      rw [hchildren] at hspells
      cases hspells with
      | present h => exact ⟨_, h⟩

theorem Spells.isPlain {n : Node} :
    ∀ {v : Json}, Spells v n → ∀ call ∈ n.calls, call.IsPlain := by
  induction n using Tree.induction with
  | leaf c => exact fun h => h.label_isPlain
  | fields c members ih =>
      intro v h call hcall
      rw [calls, callsOfAll_eq_flatMap] at hcall
      rcases List.mem_append.mp hcall with hcall | hcall
      · exact h.label_isPlain call hcall
      · obtain ⟨m, hm, hcall⟩ := List.mem_flatMap.mp hcall
        obtain ⟨x, hx⟩ := h.children rfl
        cases hx with
        | fields hmembers =>
            obtain ⟨y, hy⟩ := (Json.SpellsList.present hmembers).exists_of_mem hm
            exact ih m hm hy call hcall
  | element c item ih =>
      intro v h call hcall
      rcases List.mem_append.mp hcall with hcall | hcall
      · exact h.label_isPlain call hcall
      · obtain ⟨x, hx⟩ := h.children rfl
        cases hx with
        | element hitem => exact ih hitem call hcall

/-! ## The round trip -/

theorem ofJson?_toJson (n : Node) : ofJson? n.toJson = some (reread n) :=
  ofJson?_eq_some_iff.mpr (spells_reread n)

theorem reread_beq_self_iff {n : Node} :
    (reread n == n) = true ↔ ∀ call ∈ n.calls, call.IsPlain := by
  refine ⟨isPlain_of_beq, fun h => ?_⟩
  rw [reread_eq_self h]
  exact beq_self_eq_true n

theorem reread_eq_self_iff {n : Node} :
    reread n = n ↔ ∀ call ∈ n.calls, call.IsPlain := by
  refine ⟨fun h => isPlain_of_beq ?_, reread_eq_self⟩
  rw [h]
  exact beq_self_eq_true n

/-- Every node that is written down is read back. It comes back as it was exactly
if no call in it has a literal argument that is written like another argument,
and it is written the same again in any case. A node that was read has no such
literal, and comes back as it was. -/
theorem roundTrip :
    (∀ n : Node, ∃ m : Node, ofJson? n.toJson = some m ∧
      (m = n ↔ ∀ call ∈ n.calls, ∀ a ∈ call.arguments, ¬ a.Reserved) ∧
      ((m == n) = true ↔ ∀ call ∈ n.calls, ∀ a ∈ call.arguments, ¬ a.Reserved) ∧
      m.toJson = n.toJson) ∧
    ∀ (v : Json) (n : Node), ofJson? v = some n →
      ofJson? n.toJson = some n ∧ ∀ call ∈ n.calls, ∀ a ∈ call.arguments, ¬ a.Reserved := by
  constructor
  · exact fun n => ⟨reread n, ofJson?_toJson n, reread_eq_self_iff, reread_beq_self_iff,
      toJson_reread n⟩
  · intro v n h
    have hplain := (ofJson?_eq_some_iff.mp h).isPlain
    refine ⟨?_, hplain⟩
    rw [ofJson?_toJson, reread_eq_self hplain]

/-- A price that is not to be the text `$.free`. -/
def price : Node :=
  (Node.new "price").rule ((Call.new "notEquals").target.literal (.str "$.free"))

/-- It comes back as a price that is not to be the value at `free`, and from
then on it stays that. -/
theorem roundTrip_price :
    ∃ m : Node, ofJson? price.toJson = some m ∧ m ≠ price ∧ (m == price) = false ∧
      m.toJson = price.toJson ∧ ofJson? m.toJson = some m ∧
      m = (Node.new "price").rule ((Call.new "notEquals").target.path "free") := by
  obtain ⟨m, hm, heq, hbeq, hjson⟩ := roundTrip.1 price
  have hreserved : ¬ ∀ call ∈ price.calls, ∀ a ∈ call.arguments, ¬ a.Reserved := by
    intro h
    exact h _ (.head _) _ (.tail _ (.head _)) ⟨"$.free", rfl, .inr ⟨_, rfl⟩⟩
  refine ⟨m, hm, mt heq.mp hreserved, ?_, hjson, (roundTrip.2 _ _ hm).1, ?_⟩
  · exact Bool.eq_false_iff.mpr (mt hbeq.mp hreserved)
  · exact (Option.some.inj hm).symm

end Node

end ConstraintTree

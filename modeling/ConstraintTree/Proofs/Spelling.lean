import Mathlib.Data.List.Forall2
import ConstraintTree.Proofs.Members
import ConstraintTree.Schema.Decode

/-!
# How a schema is spelled

Which documents are schemas, and of which nodes, is said here without any
reading. A node or a call is a list of fields, and a document may list them as
the members of an object or as the items of an array (`Json.Lists`). Each field
has its own grammar, and the relations `Spells` put them together: a document
spells a type, an argument, a call, a `required`, children, a node.

Reading gives a node exactly if the document spells it
(`Node.ofJson?_eq_some_iff`). So the grammar has one meaning for each document,
which is plain to see only for most of it. Children are the exception. An array
spells member nodes item by item, and it may also spell one item node field by
field, of which the first is an id. But an id is a text and no node is, so an
array can be both only if it is empty, and there the grammar decides.

Readers are compared with grammars in the order in which they are built. The
comparison for nodes goes by induction on the document and takes the children
along, since the items of an array of children are nodes further down.
-/

namespace ConstraintTree

/-! ## The grammar -/

namespace Json

/-- The member that is there under one of some keys, if there is one, and then
under one key only. -/
inductive MemberUnder (ms : Members Json none) (keys : List String) :
    Option Json → Prop where
  | absent : (∀ k ∈ keys, ms.lookup k = none) → MemberUnder ms keys none
  | present {k : String} {v : Json} : k ∈ keys → ms.lookup k = some v →
      (∀ l ∈ keys, l ≠ k → ms.lookup l = none) → MemberUnder ms keys (some v)

/-- A document lists fields, each of which may be absent: as an object with a
member for a field under a key of its own, other members counting for nothing,
or as an array of the fields in order without some of the last. -/
inductive Lists (keys : List (List String)) : Json → List (Option Json) → Prop where
  | members {ms : Members Json none} {fields : List (Option Json)} :
      List.Forall₂ (MemberUnder ms) keys fields → Lists keys (.obj ms) fields
  | items {xs : List Json} {k : Nat} : xs.length + k = keys.length →
      Lists keys (.arr xs) (xs.map some ++ List.replicate k none)

/-- A text that is empty if it is absent. -/
inductive SpellsText : Option Json → String → Prop where
  | absent : SpellsText none ""
  | present {s : String} : SpellsText (some (.str s)) s

section

variable {α : Type} (spells : Json → α → Prop)

/-- A field for which null is the same as absence. -/
inductive SpellsOption : Option Json → Option α → Prop where
  | absent : SpellsOption none none
  | null : SpellsOption (some .null) none
  | present {v : Json} {a : α} : spells v a → SpellsOption (some v) (some a)

/-- A list that is empty if it is absent. -/
inductive SpellsList : Option Json → List α → Prop where
  | absent : SpellsList none []
  | present {xs : List Json} {as : List α} : List.Forall₂ spells xs as →
      SpellsList (some (.arr xs)) as

end

end Json

/-- A type is spelled by its name, as a text or as the one key of an object. -/
inductive DataType.Spells : Json → DataType → Prop where
  | name (t : DataType) : Spells (.str t.name) t
  | key (t : DataType) : Spells (.object [(t.name, .null)]) t

/-- A literal text that looks like the value under validation or like a path. -/
def Argument.Reserved (a : Argument) : Prop :=
  ∃ s : String, a = .literal (.str s) ∧ (s = targetToken ∨ pathMark <+: s.toList)

/-- The value under validation and paths are spelled by reserved texts, and any other value
spells itself. -/
inductive Argument.Spells : Json → Argument → Prop where
  | target : Spells (.str targetToken) .target
  | path (p : String) : Spells (.str (String.ofList (pathMark ++ p.toList))) (.path p)
  | literal {v : Json} : ¬ (Argument.literal v).Reserved → Spells v (.literal v)

/-- The keys of the fields of a call, in order. -/
def Call.keys : List (List String) :=
  [["function", "fn"], ["arguments", "args"], ["message"]]

/-- A call is spelled by its function and, where there are any, its arguments and its
message. -/
inductive Call.Spells : Json → Call → Prop where
  | call {v : Json} {c : Call} {arguments message : Option Json} :
      Json.Lists keys v [some (.str c.function), arguments, message] →
      Json.SpellsList Argument.Spells arguments c.arguments →
      Json.SpellsOption (fun v s => v = .str s) message c.message? →
      Spells v c

/-- A `required` is spelled by a truth value, by a message or by a call. -/
inductive Required.Spells : Json → Required → Prop where
  | flag (b : Bool) : Spells (.bool b) (.flag b)
  | message (template : String) : Spells (.str template) (.message template)
  | when {v : Json} {call : Call} : Call.Spells v call → Spells v (.when call)

/-- The keys of the fields of a node, in order. -/
def Node.keys : List (List String) :=
  [["id"], ["type"], ["required"], ["validations"], ["children"]]

mutual

/-- A node is spelled by the fields of its constraint and its children, each of which may be
absent. -/
inductive Node.Spells : Json → Node → Prop where
  | node {v : Json} {n : Node} {id type required rules children : Option Json} :
      Json.Lists Node.keys v [id, type, required, rules, children] →
      Json.SpellsText id n.label.id →
      Json.SpellsOption DataType.Spells type n.label.type? →
      Json.SpellsOption Required.Spells required n.label.required? →
      Json.SpellsList Call.Spells rules n.label.rules →
      Json.SpellsOption Children.Spells children n.children? →
      Node.Spells v n

/-- Children are an array of member nodes or one item node. The empty array
could be either, an item node of which every field is absent, and is taken for
no member nodes. -/
inductive Children.Spells : Json → Children → Prop where
  | fields {xs : List Json} {ns : List Node} : List.Forall₂ Node.Spells xs ns →
      Children.Spells (.arr xs) (.fields ns)
  | element {v : Json} {n : Node} : Node.Spells v n → v ≠ .arr [] →
      Children.Spells v (.element n)

end

namespace Json

/-! ## Fields -/

theorem memberUnder_singleton {ms : Members Json none} {k : String}
    {field : Option Json} : MemberUnder ms [k] field ↔ ms.lookup k = field := by
  constructor
  · rintro (habsent | ⟨hk, hv, -⟩)
    · exact habsent k (List.mem_singleton_self k)
    · rwa [← List.mem_singleton.mp hk]
  · rintro rfl
    cases h : ms.lookup k with
    | none => exact .absent (List.forall_mem_singleton.mpr h)
    | some v =>
        exact .present (List.mem_singleton_self k) h
          (List.forall_mem_singleton.mpr fun hne => absurd rfl hne)

/-- Looking under both of two keys refuses a member under each, and so does the
grammar. -/
theorem memberUnder_pair {ms : Members Json none} {k l : String} (hkl : k ≠ l)
    {field : Option Json} : MemberUnder ms [k, l] field ↔ either? ms k l = some field := by
  rw [either?]
  constructor
  · rintro (habsent | ⟨hk, hv, hother⟩)
    · rw [habsent k (by simp), habsent l (by simp)]
    · rcases List.mem_pair.mp hk with rfl | rfl
      · rw [hv, hother l (by simp) hkl.symm]
      · rw [hv, hother k (by simp) hkl]
  · intro h
    cases hk : ms.lookup k with
    | none =>
        rw [hk] at h
        cases hl : ms.lookup l with
        | none =>
            rw [hl] at h
            cases h
            exact .absent (List.forall_mem_cons.mpr
              ⟨hk, List.forall_mem_singleton.mpr hl⟩)
        | some v =>
            rw [hl] at h
            cases h
            exact .present (List.mem_pair.mpr (.inr rfl)) hl (List.forall_mem_cons.mpr
              ⟨fun _ => hk, List.forall_mem_singleton.mpr fun hne => absurd rfl hne⟩)
    | some v =>
        rw [hk] at h
        cases hl : ms.lookup l with
        | none =>
            rw [hl] at h
            cases h
            exact .present (List.mem_pair.mpr (.inl rfl)) hk (List.forall_mem_cons.mpr
              ⟨fun hne => absurd rfl hne, List.forall_mem_singleton.mpr fun _ => hl⟩)
        | some w =>
            rw [hl] at h
            cases h

theorem lists_obj_iff {keys : List (List String)} {ms : Members Json none}
    {fields : List (Option Json)} :
    Lists keys (.obj ms) fields ↔ List.Forall₂ (MemberUnder ms) keys fields :=
  ⟨fun h => by cases h; assumption, .members⟩

theorem map_append_replicate_eq {xs : List Json} {k m : Nat} (h : xs.length + k = m) :
    xs.map some ++ List.replicate k none = (List.range m).map (xs[·]?) := by
  subst h
  refine List.ext_getElem (by simp) fun i hi _ => ?_
  rw [List.getElem_append, List.getElem_map, List.getElem_range]
  split
  · next hlt => rw [List.getElem_map, List.getElem?_eq_getElem]
  · next hge =>
      rw [List.getElem_replicate]
      exact (List.getElem?_eq_none (by simpa using hge)).symm

theorem lists_arr_iff {keys : List (List String)} {xs : List Json}
    {fields : List (Option Json)} :
    Lists keys (.arr xs) fields ↔
      xs.length ≤ keys.length ∧ fields = (List.range keys.length).map (xs[·]?) := by
  constructor
  · intro h
    cases h with
    | items hk => exact ⟨Nat.le.intro hk, map_append_replicate_eq hk⟩
  · rintro ⟨hle, rfl⟩
    obtain ⟨k, hk⟩ := Nat.exists_eq_add_of_le hle
    rw [← map_append_replicate_eq hk.symm]
    exact .items hk.symm

section

variable {α : Type} {read : Json → Option α} {spells : Json → α → Prop}

theorem mapM_eq_some_iff {xs : List Json} {as : List α}
    (hread : ∀ x ∈ xs, ∀ a, read x = some a ↔ spells x a) :
    xs.mapM read = some as ↔ List.Forall₂ spells xs as := by
  induction xs generalizing as with
  | nil => simp [eq_comm]
  | cons x xs ih =>
      have hx := hread x List.mem_cons_self
      have hxs : ∀ {as}, xs.mapM read = some as ↔ List.Forall₂ spells xs as :=
        ih fun y hy => hread y (List.mem_cons_of_mem x hy)
      rw [List.mapM_cons, List.forall₂_cons_left_iff]
      constructor
      · intro h
        obtain ⟨a, ha, h⟩ := Option.bind_eq_some_iff.mp h
        obtain ⟨as', has, h⟩ := Option.bind_eq_some_iff.mp h
        cases h
        exact ⟨a, as', (hx a).mp ha, hxs.mp has, rfl⟩
      · rintro ⟨a, as', ha, has, rfl⟩
        rw [(hx a).mpr ha, hxs.mpr has]
        rfl

variable (hread : ∀ v a, read v = some a ↔ spells v a)

include hread

theorem listOr_eq_some_iff {field : Option Json} {as : List α} :
    listOr read field = some as ↔ SpellsList spells field as := by
  have hitems : ∀ {xs : List Json} {as : List α},
      xs.mapM read = some as ↔ List.Forall₂ spells xs as :=
    mapM_eq_some_iff fun x _ => hread x
  constructor
  · intro h
    unfold listOr at h
    split at h
    · cases h; exact .absent
    · exact .present (hitems.mp h)
    · cases h
  · intro h
    cases h with
    | absent => rfl
    | present h => rw [listOr, hitems.mpr h]

theorem optional_eq_some_iff (hnull : read .null = none) {field : Option Json}
    {a? : Option α} :
    optional read field = some a? ↔ SpellsOption spells field a? := by
  constructor
  · intro h
    unfold optional at h
    split at h
    · cases h; exact .absent
    · cases h; exact .null
    · obtain ⟨a, ha, rfl⟩ := Option.map_eq_some_iff.mp h
      exact .present ((hread _ a).mp ha)
  · intro h
    cases h with
    | absent => rfl
    | null => rfl
    | @present v a h =>
        have ha := (hread v a).mpr h
        have hne : v ≠ .null := by
          rintro rfl
          rw [hnull] at ha
          cases ha
        rw [optional, ha]
        · rfl
        · exact hne

end

theorem str?_eq_some_iff {v : Json} {s : String} : v.str? = some s ↔ v = .str s := by
  cases v <;> simp [str?]

end Json

/-! ## Types, arguments, calls -/

theorem DataType.ofName?_eq_some_iff {name : String} {t : DataType} :
    ofName? name = some t ↔ name = t.name := by
  constructor
  · intro h
    have hname := List.find?_some h
    exact (beq_iff_eq.mp hname).symm
  · rintro rfl
    cases t <;> rfl

theorem DataType.ofJson?_eq_some_iff {v : Json} {t : DataType} :
    DataType.ofJson? v = some t ↔ DataType.Spells v t := by
  constructor
  · intro h
    unfold DataType.ofJson? at h
    split at h
    · rw [ofName?_eq_some_iff] at h
      rw [h]
      exact .name t
    · obtain rfl := ofName?_eq_some_iff.mp h
      exact .key t
    · cases h
  · rintro (_ | _)
    all_goals exact ofName?_eq_some_iff.mpr rfl

namespace Argument

theorem ofJson_reserved_path (p : String) :
    ofJson (.str (String.ofList (pathMark ++ p.toList))) = .path p := by
  have hlist : (String.ofList (pathMark ++ p.toList)).toList = '$' :: '.' :: p.toList :=
    String.toList_ofList
  have hne : String.ofList (pathMark ++ p.toList) ≠ targetToken := by
    intro h
    have hlist' := hlist.symm.trans (congrArg String.toList h)
    cases hlist'
  rw [ofJson, if_neg hne, hlist]
  exact congrArg Argument.path String.ofList_toList

theorem ofJson_literal {v : Json} (h : ¬ (Argument.literal v).Reserved) :
    ofJson v = .literal v := by
  cases v with
  | str s =>
      have htoken : s ≠ targetToken := fun hs => h ⟨s, rfl, .inl hs⟩
      rw [ofJson, if_neg htoken]
      split
      · next rest hs => exact absurd ⟨s, rfl, .inr (hs ▸ ⟨rest, rfl⟩)⟩ h
      · rfl
  | null | bool | num | arr | obj => rfl

/-- A value means its argument: the two reserved forms of text are no literals,
and all else is. -/
theorem spells_ofJson (v : Json) : Argument.Spells v (ofJson v) := by
  by_cases h : (Argument.literal v).Reserved
  · obtain ⟨s, hs, rfl | ⟨rest, hrest⟩⟩ := h
    · cases hs
      exact .target
    · cases hs
      obtain rfl : s = String.ofList (pathMark ++ (String.ofList rest).toList) := by
        rw [String.toList_ofList, hrest, String.ofList_toList]
      rw [ofJson_reserved_path]
      exact .path _
  · rw [ofJson_literal h]
    exact .literal h

theorem ofJson_eq_iff {v : Json} {a : Argument} :
    ofJson v = a ↔ Argument.Spells v a := by
  constructor
  · rintro rfl
    exact spells_ofJson v
  · intro h
    cases h with
    | target => rfl
    | path p => exact ofJson_reserved_path p
    | literal h => exact ofJson_literal h

end Argument

namespace Call

theorem lists_obj_iff {ms : Members Json none} {function arguments message : Option Json} :
    Json.Lists keys (.obj ms) [function, arguments, message] ↔
      Json.either? ms "function" "fn" = some function ∧
        Json.either? ms "arguments" "args" = some arguments ∧
        ms.lookup "message" = message := by
  rw [Json.lists_obj_iff, keys]
  simp only [List.forall₂_cons, List.forall₂_nil_left_iff]
  rw [Json.memberUnder_pair (by decide), Json.memberUnder_pair (by decide),
    Json.memberUnder_singleton]
  simp

theorem lists_arr_iff {xs : List Json} {function arguments message : Option Json} :
    Json.Lists keys (.arr xs) [function, arguments, message] ↔
      xs.length ≤ 3 ∧ xs[0]? = function ∧ xs[1]? = arguments ∧ xs[2]? = message := by
  rw [Json.lists_arr_iff]
  change _ ∧ _ = [xs[0]?, xs[1]?, xs[2]?] ↔ _
  simp [keys, eq_comm]

theorem ofFields?_eq_some_iff {function arguments message : Option Json} {c : Call} :
    ofFields? function arguments message = some c ↔
      function = some (.str c.function) ∧
        Json.SpellsList Argument.Spells arguments c.arguments ∧
        Json.SpellsOption (fun v s => v = .str s) message c.message? := by
  have harguments : ∀ as, Json.listOr (some ∘ Argument.ofJson) arguments = some as ↔
      Json.SpellsList Argument.Spells arguments as := fun as =>
    Json.listOr_eq_some_iff fun v a => by simp [← Argument.ofJson_eq_iff]
  have hmessage : ∀ m, Json.optional Json.str? message = some m ↔
      Json.SpellsOption (fun v s => v = .str s) message m := fun m =>
    Json.optional_eq_some_iff (fun v s => Json.str?_eq_some_iff) rfl
  rw [ofFields?]
  constructor
  · intro h
    obtain ⟨v, hv, h⟩ := Option.bind_eq_some_iff.mp h
    obtain ⟨f, hf, h⟩ := Option.bind_eq_some_iff.mp h
    obtain ⟨as, has, h⟩ := Option.bind_eq_some_iff.mp h
    obtain ⟨m, hm, h⟩ := Option.bind_eq_some_iff.mp h
    cases h
    rw [hv, Json.str?_eq_some_iff.mp hf]
    exact ⟨rfl, (harguments as).mp has, (hmessage m).mp hm⟩
  · rintro ⟨rfl, has, hm⟩
    rw [(harguments _).mpr has, (hmessage _).mpr hm]
    rfl

theorem ofJson?_eq_some_iff {v : Json} {c : Call} :
    ofJson? v = some c ↔ Call.Spells v c := by
  constructor
  · intro h
    cases v with
    | obj ms =>
        obtain ⟨function, hf, h⟩ := Option.bind_eq_some_iff.mp h
        obtain ⟨arguments, ha, h⟩ := Option.bind_eq_some_iff.mp h
        obtain ⟨rfl, has, hm⟩ := ofFields?_eq_some_iff.mp h
        exact .call (lists_obj_iff.mpr ⟨hf, ha, rfl⟩) has hm
    | arr xs =>
        rw [ofJson?] at h
        split at h
        · next hle =>
            obtain ⟨hf, has, hm⟩ := ofFields?_eq_some_iff.mp h
            exact .call (lists_arr_iff.mpr ⟨hle, hf, rfl, rfl⟩) has hm
        · cases h
    | null | bool | num | str => cases h
  · rintro ⟨hlists, has, hm⟩
    cases v with
    | obj ms =>
        obtain ⟨hf, ha, rfl⟩ := lists_obj_iff.mp hlists
        rw [ofJson?, hf, ha]
        exact ofFields?_eq_some_iff.mpr ⟨rfl, has, hm⟩
    | arr xs =>
        obtain ⟨hle, hf, rfl, rfl⟩ := lists_arr_iff.mp hlists
        rw [ofJson?, if_pos hle]
        exact ofFields?_eq_some_iff.mpr ⟨hf, has, hm⟩
    | null | bool | num | str => cases hlists

end Call

theorem Required.ofJson?_eq_some_iff {v : Json} {required : Required} :
    Required.ofJson? v = some required ↔ Required.Spells v required := by
  constructor
  · intro h
    unfold Required.ofJson? at h
    split at h
    · cases h; exact .flag _
    · cases h; exact .message _
    · obtain ⟨call, hcall, rfl⟩ := Option.map_eq_some_iff.mp h
      exact .when (Call.ofJson?_eq_some_iff.mp hcall)
  · intro h
    cases h with
    | flag b => rfl
    | message template => rfl
    | when h =>
        have hcall := Call.ofJson?_eq_some_iff.mpr h
        cases v with
        | bool | str => cases hcall
        | null | num | arr | obj => exact congrArg (Option.map Required.when) hcall

/-! ## Nodes -/

/-- A text that is empty if it is absent, as it is read. -/
def Json.textOr : Option Json → Option String
  | none => some ""
  | some v => v.str?

theorem Json.textOr_eq_some_iff {field : Option Json} {s : String} :
    textOr field = some s ↔ SpellsText field s := by
  constructor
  · intro h
    cases field with
    | none => cases h; exact .absent
    | some v =>
        rw [textOr, str?_eq_some_iff] at h
        rw [h]
        exact .present
  · intro h
    cases h with
    | absent => rfl
    | present => rfl

theorem Constraint.ofFields?_eq_bind (id type required rules : Option Json) :
    Constraint.ofFields? id type required rules = do
      let id ← Json.textOr id
      let type? ← Json.optional DataType.ofJson? type
      let required? ← Json.optional Required.ofJson? required
      let rules ← Json.listOr Call.ofJson? rules
      return ⟨id, type?, required?, rules⟩ := by
  cases id <;> rfl

theorem Constraint.ofFields?_eq_some_iff {id type required rules : Option Json}
    {c : Constraint} :
    Constraint.ofFields? id type required rules = some c ↔
      Json.SpellsText id c.id ∧ Json.SpellsOption DataType.Spells type c.type? ∧
        Json.SpellsOption Required.Spells required c.required? ∧
        Json.SpellsList Call.Spells rules c.rules := by
  have htype : ∀ t, Json.optional DataType.ofJson? type = some t ↔
      Json.SpellsOption DataType.Spells type t := fun t =>
    Json.optional_eq_some_iff (fun v a => DataType.ofJson?_eq_some_iff) rfl
  have hrequired : ∀ r, Json.optional Required.ofJson? required = some r ↔
      Json.SpellsOption Required.Spells required r := fun r =>
    Json.optional_eq_some_iff (fun v a => Required.ofJson?_eq_some_iff) rfl
  have hrules : ∀ cs, Json.listOr Call.ofJson? rules = some cs ↔
      Json.SpellsList Call.Spells rules cs := fun cs =>
    Json.listOr_eq_some_iff fun v a => Call.ofJson?_eq_some_iff
  rw [ofFields?_eq_bind]
  constructor
  · intro h
    obtain ⟨i, hi, h⟩ := Option.bind_eq_some_iff.mp h
    obtain ⟨t, ht, h⟩ := Option.bind_eq_some_iff.mp h
    obtain ⟨r, hr, h⟩ := Option.bind_eq_some_iff.mp h
    obtain ⟨cs, hcs, h⟩ := Option.bind_eq_some_iff.mp h
    cases h
    exact ⟨Json.textOr_eq_some_iff.mp hi, (htype t).mp ht, (hrequired r).mp hr,
      (hrules cs).mp hcs⟩
  · rintro ⟨hi, ht, hr, hcs⟩
    rw [Json.textOr_eq_some_iff.mpr hi, (htype _).mpr ht, (hrequired _).mpr hr,
      (hrules _).mpr hcs]
    rfl

/-- A document has what all its parts hand upwards. -/
@[elab_as_elim]
theorem Json.induction {P : Json → Prop} (null : P .null) (bool : ∀ b, P (.bool b))
    (num : ∀ n, P (.num n)) (str : ∀ s, P (.str s))
    (arr : ∀ xs, (∀ x ∈ xs, P x) → P (.arr xs))
    (obj : ∀ ms, (∀ m ∈ ms.toList, P m.2) → P (.obj ms)) : ∀ v, P v := by
  intro v
  refine Json.rec (motive_1 := P) (motive_2 := fun xs => ∀ x ∈ xs, P x)
    (motive_3 := fun _ ms => ∀ m ∈ ms.toList, P m.2) null bool num str arr obj ?_ ?_ ?_ ?_ v
  · exact List.forall_mem_nil _
  · exact fun x xs hx hxs => List.forall_mem_cons.mpr ⟨hx, hxs⟩
  · exact List.forall_mem_nil _
  · exact fun k x _ ms hx hms => List.forall_mem_cons.mpr ⟨hx, hms⟩

theorem Children.under_eq_iff {children? : Option Children} {c : Constraint} {n : Node} :
    Children.under children? c = n ↔ c = n.label ∧ children? = n.children? := by
  constructor
  · rintro rfl
    match children? with
    | none => exact ⟨rfl, rfl⟩
    | some (.fields _) => exact ⟨rfl, rfl⟩
    | some (.element _) => exact ⟨rfl, rfl⟩
  · rintro ⟨rfl, rfl⟩
    cases n <;> rfl

namespace Node

theorem lists_obj_iff {ms : Members Json none}
    {id type required rules children : Option Json} :
    Json.Lists keys (.obj ms) [id, type, required, rules, children] ↔
      ms.lookup "id" = id ∧ ms.lookup "type" = type ∧ ms.lookup "required" = required ∧
        ms.lookup "validations" = rules ∧ ms.lookup "children" = children := by
  rw [Json.lists_obj_iff, keys]
  simp only [List.forall₂_cons, Json.memberUnder_singleton]
  simp

theorem lists_arr_iff {xs : List Json} {id type required rules children : Option Json} :
    Json.Lists keys (.arr xs) [id, type, required, rules, children] ↔
      xs.length ≤ 5 ∧ xs[0]? = id ∧ xs[1]? = type ∧ xs[2]? = required ∧
        xs[3]? = rules ∧ xs[4]? = children := by
  rw [Json.lists_arr_iff]
  change _ ∧ _ = [xs[0]?, xs[1]?, xs[2]?, xs[3]?, xs[4]?] ↔ _
  simp [keys, eq_comm]

/-- Only objects and arrays are nodes. -/
theorem Spells.lists {v : Json} {n : Node} (h : Spells v n) :
    ∃ fields, Json.Lists keys v fields := by
  cases h with
  | node hlists => exact ⟨_, hlists⟩

/-- An array is not both a list of nodes and a list of the fields of one node,
unless it is empty: the first field is a text, and no node is a text. -/
theorem eq_nil_of_spells {xs : List Json} {ns : List Node} {n : Node}
    (hmembers : List.Forall₂ Spells xs ns) (hitem : Spells (.arr xs) n) : xs = [] := by
  cases hmembers with
  | nil => rfl
  | @cons x m xs ms hx hxs =>
      obtain ⟨fields, hfields⟩ := hx.lists
      cases hitem with
      | node hlists hid =>
          obtain ⟨-, rfl, -⟩ := lists_arr_iff.mp hlists
          cases hid
          cases hfields

/-! ## Reading nodes -/

/-- Reads the children of a node from their field. -/
def childrenField : Option Json → Option (Option Children)
  | none => some none
  | some v => childrenOfJson? v

theorem childrenMember?_eq {b : Option String} (ms : Members Json b) :
    childrenMember? ms = childrenField (ms.lookup "children") := by
  induction ms with
  | nil => rw [childrenMember?]; rfl
  | cons key v _ ms ih =>
      rw [childrenMember?, Members.lookup]
      split
      · rfl
      · exact ih

theorem childrenItem?_eq {xs : List Json} (h : xs.length ≤ 5) :
    childrenItem? xs = childrenField xs[4]? := by
  match xs with
  | [] | [_] | [_, _] | [_, _, _] | [_, _, _, _] | [_, _, _, _, _] => rfl
  | _ :: _ :: _ :: _ :: _ :: _ :: _ =>
      simp only [List.length_cons] at h
      omega

theorem bind_under_eq_some_iff {c? : Option Constraint}
    {children : Option (Option Children)} {n : Node} :
    (do let c ← c?; return Children.under (← children) c) = some n ↔
      c? = some n.label ∧ children = some n.children? := by
  constructor
  · intro h
    obtain ⟨c, hc, h⟩ := Option.bind_eq_some_iff.mp h
    obtain ⟨children?, hchildren, h⟩ := Option.bind_eq_some_iff.mp h
    obtain ⟨rfl, rfl⟩ := Children.under_eq_iff.mp (Option.some.inj h)
    exact ⟨hc, hchildren⟩
  · rintro ⟨rfl, rfl⟩
    exact congrArg some (Children.under_eq_iff.mpr ⟨rfl, rfl⟩)

/-- Reading a field of children agrees with the grammar. -/
def ReadsChildren (field : Option Json) : Prop :=
  ∀ children?, childrenField field = some children? ↔
    Json.SpellsOption Children.Spells field children?

theorem readsChildren_none : ReadsChildren none := by
  intro children?
  constructor
  · intro h
    cases h
    exact .absent
  · intro h
    cases h
    rfl

/-- A document that lists the fields of a node spells what is read from them. -/
theorem spells_iff_of_lists {v : Json} {id type required rules children : Option Json}
    (hlists : ∀ i t r cs ch, Json.Lists keys v [i, t, r, cs, ch] ↔
      id = i ∧ type = t ∧ required = r ∧ rules = cs ∧ children = ch)
    (hchildren : ReadsChildren children) {n : Node} :
    (do let c ← Constraint.ofFields? id type required rules
        return Children.under (← childrenField children) c) = some n ↔ Spells v n := by
  rw [bind_under_eq_some_iff, Constraint.ofFields?_eq_some_iff, hchildren]
  constructor
  · rintro ⟨⟨hid, htype, hrequired, hrules⟩, hchildren⟩
    exact .node ((hlists _ _ _ _ _).mpr ⟨rfl, rfl, rfl, rfl, rfl⟩) hid htype hrequired
      hrules hchildren
  · rintro ⟨hfields, hid, htype, hrequired, hrules, hchildren⟩
    obtain ⟨rfl, rfl, rfl, rfl, rfl⟩ := (hlists _ _ _ _ _).mp hfields
    exact ⟨⟨hid, htype, hrequired, hrules⟩, hchildren⟩

theorem ofJson?_obj_iff {ms : Members Json none}
    (hchildren : ReadsChildren (ms.lookup "children")) {n : Node} :
    ofJson? (.obj ms) = some n ↔ Spells (.obj ms) n := by
  rw [ofJson?, ofMembers?, childrenMember?_eq]
  exact spells_iff_of_lists (fun _ _ _ _ _ => lists_obj_iff) hchildren

theorem ofJson?_arr_iff {xs : List Json} (hchildren : ReadsChildren xs[4]?) {n : Node} :
    ofJson? (.arr xs) = some n ↔ Spells (.arr xs) n := by
  rw [ofJson?, ofItems?]
  split
  · next hle =>
      rw [childrenItem?_eq hle]
      exact spells_iff_of_lists
        (fun _ _ _ _ _ => lists_arr_iff.trans (and_iff_right hle)) hchildren
  · next hlong =>
      refine iff_of_false (fun h => nomatch h) ?_
      rintro ⟨hlists, -⟩
      exact hlong (lists_arr_iff.mp hlists).1

theorem listOfJson?_eq_mapM (xs : List Json) : listOfJson? xs = xs.mapM ofJson? := by
  induction xs with
  | nil => rfl
  | cons x xs ih =>
      rw [listOfJson?, List.mapM_cons, ih]

/-- An array of children is read as member nodes first. The order matters for
the empty array only. -/
theorem childrenOfJson?_arr_iff {xs : List Json}
    (hitems : ∀ x ∈ xs, ∀ n, ofJson? x = some n ↔ Spells x n)
    (hself : ∀ n, ofJson? (.arr xs) = some n ↔ Spells (.arr xs) n) :
    ReadsChildren (some (.arr xs)) := by
  have hmembers : ∀ ns, listOfJson? xs = some ns ↔ List.Forall₂ Spells xs ns := by
    intro ns
    rw [listOfJson?_eq_mapM]
    exact Json.mapM_eq_some_iff hitems
  have hfield : childrenField (some (.arr xs)) =
      ((listOfJson? xs).map (some ∘ Children.fields)).or
        ((ofJson? (.arr xs)).map (some ∘ Children.element)) := by
    rw [childrenField, childrenOfJson?, ofJson?]
    exact Option.orElse_eq_or
  intro children?
  rw [hfield]
  constructor
  · intro h
    cases hlist : listOfJson? xs with
    | some ns =>
        rw [hlist] at h
        cases h
        exact .present (.fields ((hmembers ns).mp hlist))
    | none =>
        rw [hlist] at h
        obtain ⟨n, hn, rfl⟩ := Option.map_eq_some_iff.mp h
        refine .present (.element ((hself n).mp hn) ?_)
        rintro ⟨⟩
        cases hlist
  · intro h
    cases h with
    | present h =>
        cases h with
        | fields h => rw [(hmembers _).mpr h]; rfl
        | element h hne =>
            -- Were it a list of nodes as well, it would be empty.
            have hlist : listOfJson? xs = none := by
              refine Option.eq_none_iff_forall_ne_some.mpr fun ns hns => hne ?_
              rw [eq_nil_of_spells ((hmembers ns).mp hns) h]
            rw [hlist, (hself _).mpr h]
            rfl

/-- An object of children is one item node. -/
theorem readsChildren_obj {ms : Members Json none}
    (hself : ∀ n, ofJson? (.obj ms) = some n ↔ Spells (.obj ms) n) :
    ReadsChildren (some (.obj ms)) := by
  intro children?
  have hfield : childrenField (some (.obj ms)) =
      (ofJson? (.obj ms)).map (some ∘ Children.element) := by
    rw [childrenField, childrenOfJson?, ofJson?]
  rw [hfield]
  constructor
  · intro h
    obtain ⟨n, hn, rfl⟩ := Option.map_eq_some_iff.mp h
    exact .present (.element ((hself n).mp hn) fun heq => nomatch heq)
  · intro h
    cases h with
    | present h =>
        cases h with
        | element h => rw [(hself _).mpr h]; rfl

theorem not_childrenSpells {v : Json} (h : ∀ fields, ¬ Json.Lists keys v fields)
    (harr : ∀ xs, v ≠ .arr xs) {children : Children} : ¬ Children.Spells v children := by
  intro hspells
  cases hspells with
  | fields => exact harr _ rfl
  | element hn =>
      obtain ⟨fields, hfields⟩ := hn.lists
      exact h fields hfields

theorem readsChildren_null : ReadsChildren (some .null) := by
  intro children?
  constructor
  · intro h
    cases h
    exact .null
  · intro h
    cases h with
    | null => rfl
    | present h =>
        refine absurd h (not_childrenSpells ?_ ?_)
        · rintro fields ⟨⟩
        · rintro xs ⟨⟩

/-- A value that is neither null nor an object nor an array is no node and no
children. -/
theorem reads_scalar {v : Json} (hlists : ∀ fields, ¬ Json.Lists keys v fields)
    (hnull : v ≠ .null) (harr : ∀ xs, v ≠ .arr xs) (hnode : ofJson? v = none)
    (hchildren : childrenOfJson? v = none) :
    (∀ n, ofJson? v = some n ↔ Spells v n) ∧ ReadsChildren (some v) := by
  constructor
  · intro n
    rw [hnode]
    refine iff_of_false (fun h => nomatch h) fun h => ?_
    obtain ⟨fields, hfields⟩ := h.lists
    exact hlists fields hfields
  · intro children?
    rw [childrenField, hchildren]
    refine iff_of_false (fun h => nomatch h) fun h => ?_
    cases h with
    | null => exact hnull rfl
    | present h => exact not_childrenSpells hlists harr h

theorem reads (v : Json) :
    (∀ n, ofJson? v = some n ↔ Spells v n) ∧ ReadsChildren (some v) := by
  induction v using Json.induction with
  | null =>
      refine ⟨fun n => iff_of_false (fun h => nomatch h) fun h => ?_, readsChildren_null⟩
      obtain ⟨fields, ⟨⟩⟩ := h.lists
  | bool b =>
      exact reads_scalar (fun _ h => nomatch h) (fun h => nomatch h) (fun _ h => nomatch h)
        rfl rfl
  | num n =>
      exact reads_scalar (fun _ h => nomatch h) (fun h => nomatch h) (fun _ h => nomatch h)
        rfl rfl
  | str s =>
      exact reads_scalar (fun _ h => nomatch h) (fun h => nomatch h) (fun _ h => nomatch h)
        rfl rfl
  | arr xs ih =>
      have hfield : ReadsChildren xs[4]? := by
        cases h : xs[4]? with
        | none => exact readsChildren_none
        | some v => exact (ih v (List.mem_of_getElem? h)).2
      have hself := fun n => ofJson?_arr_iff hfield (n := n)
      exact ⟨hself, childrenOfJson?_arr_iff (fun x hx => (ih x hx).1) hself⟩
  | obj ms ih =>
      have hfield : ReadsChildren (ms.lookup "children") := by
        cases h : ms.lookup "children" with
        | none => exact readsChildren_none
        | some v =>
            exact (ih ("children", v) (Members.mem_toList_of_lookup h)).2
      have hself := fun n => ofJson?_obj_iff hfield (n := n)
      exact ⟨hself, readsChildren_obj hself⟩

theorem ofJson?_eq_some_iff {v : Json} {n : Node} : ofJson? v = some n ↔ Spells v n :=
  (reads v).1 n

/-- Reading accepts exactly what the grammar spells, a document spells one node
at most, and an array of nodes is not one item node as well, unless it is
empty. -/
theorem ofJson?_iff_spells :
    (∀ v n, ofJson? v = some n ↔ Spells v n) ∧
    (∀ v n m, Spells v n → Spells v m → n = m) ∧
    ∀ xs ns, xs ≠ [] → List.Forall₂ Spells xs ns → ∀ n, ¬ Spells (.arr xs) n := by
  refine ⟨fun v n => ofJson?_eq_some_iff, fun v n m hn hm => ?_,
    fun xs ns hne hns n hn => hne (eq_nil_of_spells hns hn)⟩
  have hread := ofJson?_eq_some_iff.mpr hn
  rw [ofJson?_eq_some_iff.mpr hm] at hread
  exact (Option.some.inj hread).symm

/-- A list of tags, with the item node given by its id and its type. -/
def tags : Node := (Node.new "tags").withElement ((Node.new "tag").typed .string)

/-- A document that spells it, in which the item node is an array. -/
def spelledTags : Json :=
  .object [("children", .arr [.str "tag", .str "string"]), ("id", .str "tags")]

theorem ofJson?_iff_spells_tags :
    ofJson? spelledTags = some tags ∧ Spells spelledTags tags ∧
      (∀ m, Spells spelledTags m → m = tags) ∧
      List.Forall₂ Spells [spelledTags] [tags] ∧ ∀ n, ¬ Spells (.arr [spelledTags]) n := by
  have htags : Spells spelledTags tags := (ofJson?_iff_spells.1 _ _).mp rfl
  have hlist : List.Forall₂ Spells [spelledTags] [tags] := .cons htags .nil
  exact ⟨rfl, htags, fun m hm => ofJson?_iff_spells.2.1 _ _ _ hm htags, hlist,
    ofJson?_iff_spells.2.2 _ _ (List.cons_ne_nil _ _) hlist⟩

end Node

end ConstraintTree

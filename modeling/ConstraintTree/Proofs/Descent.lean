import ConstraintTree.Proofs.Compile

/-!
# Reading from the root against carrying the value down

A plan reads the value of every node anew. It joins a path to the node, and the
path is cut into segments and followed from the root of the data, once for the
node and once more for every argument that stands for the value. Nobody would
describe a validator like this. One would say that a node gets a value, that a
member gets the member of that value, and that an item node gets the items.

`descend` is that description. It carries the value, which may be missing, and
a path that it only writes on messages; paths from the root are read in the
data as before. Both find the same. The reason is `get?_join`: following a
joined path is following its beginning and taking one more step, and the step
that a segment spells is the step that `descend` takes by hand.

For the items of an array this needs that every index can be spelled. A path
holds indices of 64 bits, and an array of the program has no other ones. A list
can be longer, hence `Indexable`.
-/

namespace ConstraintTree

namespace Json

/-- The member under a key, or the item at the index whose decimal the key is.
The decimals are written and compared, and none is read. -/
def step? (v : Json) (key : String) : Option Json :=
  match v with
  | .obj ms => ms.lookup key
  | .arr xs => ((List.range xs.length).find? (Nat.repr · == key)).bind (xs[·]?)
  | _ => none

mutual

/-- No array is longer than there are indices. -/
def Indexable : Json → Prop
  | .arr xs => xs.length ≤ 0x10000000000000000 ∧ ItemsIndexable xs
  | .obj ms => MembersIndexable ms
  | _ => True

/-- So it is in every item. -/
def ItemsIndexable : List Json → Prop
  | [] => True
  | x :: xs => Indexable x ∧ ItemsIndexable xs

/-- So it is in the value of every member. -/
def MembersIndexable {b : Option String} : Members Json b → Prop
  | .nil => True
  | .cons _ x _ ms => Indexable x ∧ MembersIndexable ms

end

theorem ItemsIndexable.getElem? {xs : List Json} (h : ItemsIndexable xs)
    {i : Nat} {x : Json} (hx : xs[i]? = some x) : x.Indexable := by
  induction xs generalizing i with
  | nil => cases hx
  | cons y ys ih =>
      rw [ItemsIndexable] at h
      cases i with
      | zero => cases hx; exact h.1
      | succ i => exact ih h.2 hx

theorem MembersIndexable.lookup {b : Option String} {ms : Members Json b}
    (h : MembersIndexable ms) {key : String} {x : Json}
    (hx : ms.lookup key = some x) : x.Indexable := by
  induction ms with
  | nil => cases hx
  | cons k y _ ms ih =>
      rw [MembersIndexable] at h
      rw [Members.lookup] at hx
      split at hx
      · cases hx; exact h.1
      · exact ih h.2 hx

theorem MembersIndexable.insert {b : Option String} {ms : Members Json b}
    (h : MembersIndexable ms) {key : String} {v : Json} (hv : v.Indexable) (past : Past b key) :
    MembersIndexable (ms.insert key v past) := by
  induction ms with
  | nil => exact ⟨hv, trivial⟩
  | cons k x _ ms ih =>
      rw [MembersIndexable] at h
      rw [Members.insert]
      split
      · exact ⟨hv, h⟩
      · split
        · exact ⟨hv, h.2⟩
        · exact ⟨h.1, ih h.2 _⟩

theorem indexable_object {members : List (String × Json)} (h : ∀ m ∈ members, m.2.Indexable) :
    (object members).Indexable := by
  rw [object, Members.ofList, Indexable]
  exact List.foldlRecOn members _ trivial fun ms hms m hm => hms.insert (h m hm) _

theorem Indexable.child? {v x : Json} (h : v.Indexable) {s : String}
    (hx : v.child? s = some x) : x.Indexable := by
  cases v with
  | arr xs =>
      rw [Indexable] at h
      obtain ⟨i, -, hi⟩ := Option.bind_eq_some_iff.mp hx
      exact h.2.getElem? hi
  | obj ms =>
      rw [Indexable] at h
      exact h.lookup hx
  | null | bool | num | str => cases hx

theorem Indexable.get? {data x : Json} (h : data.Indexable) {path : String}
    (hx : data.get? path = some x) : x.Indexable := by
  rw [get?_eq_descend?] at hx
  generalize Path.steps path = ss at hx
  induction ss generalizing data with
  | nil => cases hx; exact h
  | cons s ss ih =>
      rw [descend?] at hx
      obtain ⟨v, hv, hx⟩ := Option.bind_eq_some_iff.mp hx
      exact ih (h.child? hv) hx

/-- The step that a segment spells. Reading the segment as an index finds an
item exactly if writing the indices of the array meets the segment. -/
theorem child?_eq_step? {v : Json} (h : v.Indexable) (s : String) :
    v.child? s = v.step? s := by
  cases v with
  | arr xs =>
      rw [Indexable] at h
      rw [child?, step?]
      cases hfind : (List.range xs.length).find? (Nat.repr · == s) with
      | some i =>
          have hs : Nat.repr i = s := by simpa using List.find?_some hfind
          have hi := List.mem_range.mp (List.mem_of_find?_eq_some hfind)
          rw [Path.index?_eq_some_iff.mpr ⟨hs.symm, Nat.lt_of_lt_of_le hi h.1⟩]
      | none =>
          -- The segment may be an index, but then it is beyond the array.
          refine Option.bind_eq_none_iff.mpr fun i hi => ?_
          have hs := (Path.index?_eq_some_iff.mp hi).1
          refine List.getElem?_eq_none (Nat.le_of_not_lt fun hlt => ?_)
          have hne := List.find?_eq_none.mp hfind i (List.mem_range.mpr hlt)
          exact hne (by simp [hs])
  | null | bool | num | str | obj => rfl

theorem get?_item {data : Json} (h : data.Indexable) {path : String}
    {xs : List Json} (hxs : data.get? path = some (.arr xs)) {i : Nat} {x : Json}
    (hx : xs[i]? = some x) : data.get? (Path.item path i) = some x := by
  have hlen := (h.get? hxs)
  rw [Indexable] at hlen
  have hi : i < xs.length := (List.getElem?_eq_some_iff.mp hx).1
  rw [get?_item_eq (Nat.lt_of_lt_of_le hi hlen.1), hxs]
  exact hx

end Json

/-! ## What a node says about a value in hand -/

/-- What an argument stands for at a value. Only a path is followed from the root. -/
def Argument.resolveAt (root : Json) (value : Option Json) : Argument → Option Json
  | .literal v => some v
  | .target => value
  | .path p => root.get? p

/-- What a call comes out as at a value. -/
def Bound.evaluateAt (b : Bound) (root : Json) (value : Option Json) : Resolved :=
  b.function ⟨b.call.arguments.map (Argument.resolveAt root value)⟩

/-- What a required check says about a blank value. -/
def RequiredCheck.wordingAt? (check : RequiredCheck) (root : Json)
    (value : Option Json) : Option Wording :=
  match check with
  | .always => some ⟨none, .required⟩
  | .message template => some ⟨some template, .required⟩
  | .when condition =>
    let outcome := condition.evaluateAt root value
    if outcome.isTruthy then some ⟨condition.call.message? <|> outcome.text?, .required⟩
    else none

namespace Plan

/-- What the first rule that does not hold at a value says. -/
def brokenRuleAt? (rules : List Bound) (root : Json) (value : Option Json) :
    Option Wording :=
  (rules.find? fun b => !(b.evaluateAt root value).isTruthy).map fun b =>
    ⟨b.call.message?, .rule b.call.function⟩

/-- What a node says about its value. -/
def wordingAt? (p : Plan) (root : Json) (value : Option Json) : Option Wording :=
  match p.mismatch? value with
  | some actual => some ⟨none, .typeMismatch (p.label.declared?.getD .object) actual⟩
  | none =>
    if isBlank value then p.label.required?.bind (·.wordingAt? root value)
    else brokenRuleAt? p.label.rules root value

mutual

/-- What a plan finds in a value, told at `path`. -/
def descend (root : Json) (value : Option Json) (path : String) :
    Plan → List Finding
  | .leaf c =>
    match wordingAt? (.leaf c) root value with
    | some w => [⟨path, w⟩]
    | none => []
  | .fields c members =>
    match wordingAt? (.fields c members) root value with
    | some w => [⟨path, w⟩]
    | none => descendMembers root value path members
  | .element c item =>
    match wordingAt? (.element c item) root value with
    | some w => [⟨path, w⟩]
    | none =>
      match value with
      | some (.arr xs) =>
        xs.zipIdx.flatMap fun (x, i) => descend root (some x) (Path.item path i) item
      | _ => []

/-- What members find, each in the member of the value under its id. -/
def descendMembers (root : Json) (value : Option Json) (parent : String) :
    List Plan → List Finding
  | [] => []
  | p :: ps =>
    descend root (value.bind (·.step? p.label.id)) (Path.join parent p.label.id) p
      ++ descendMembers root value parent ps

end

/-- What is found below a node that says nothing itself. -/
def belowAt (root : Json) (value : Option Json) (path : String) : Plan → List Finding
  | .leaf _ => []
  | .fields _ members => descendMembers root value path members
  | .element _ item =>
    match value with
    | some (.arr xs) =>
      xs.zipIdx.flatMap fun (x, i) => descend root (some x) (Path.item path i) item
    | _ => []

theorem descend_eq (root : Json) (value : Option Json) (path : String) (p : Plan) :
    p.descend root value path =
      match p.wordingAt? root value with
      | some w => [⟨path, w⟩]
      | none => p.belowAt root value path := by
  cases p <;> rfl

end Plan

/-! ## The value in hand is the value at the path -/

theorem Argument.resolve_eq (root : Json) (path : String) (a : Argument) :
    a.resolve root path = a.resolveAt root (root.get? path) := by
  cases a <;> rfl

theorem Bound.evaluate_eq (b : Bound) (root : Json) (path : String) :
    b.evaluate root path = b.evaluateAt root (root.get? path) := by
  have hresolve : Argument.resolve root path =
      Argument.resolveAt root (root.get? path) :=
    funext fun a => a.resolve_eq root path
  rw [evaluate, evaluateAt, Call.evaluate, hresolve]

theorem RequiredCheck.wording?_eq (check : RequiredCheck) (root : Json)
    (path : String) :
    check.wording? root path = check.wordingAt? root (root.get? path) := by
  cases check with
  | always => rfl
  | message template => rfl
  | when condition => rw [wording?, wordingAt?, Bound.evaluate_eq]

namespace Plan

theorem wording?_eq (p : Plan) (root : Json) (path : String) :
    p.wording? root path = p.wordingAt? root (root.get? path) := by
  have hrules : brokenRule? p.label.rules root path =
      brokenRuleAt? p.label.rules root (root.get? path) := by
    rw [brokenRule?, brokenRuleAt?]
    simp only [Bound.evaluate_eq]
  have hrequired : p.label.required?.bind (·.wording? root path) =
      p.label.required?.bind (·.wordingAt? root (root.get? path)) := by
    cases p.label.required? with
    | none => rfl
    | some check => exact check.wording?_eq root path
  rw [wording?, wordingAt?]
  cases p.mismatch? (root.get? path) with
  | some actual => rfl
  | none =>
      cases isBlank (root.get? path) with
      | true => exact hrequired
      | false => exact hrules

theorem memberFindings_eq_descendMembers {r : Registry} {root : Json}
    (hroot : root.Indexable) {ns : List Node} (hids : Schema.GoodIds (ns.map Node.id))
    (hnode : ∀ n ∈ ns, ∀ path, (ofNode r n).findings root path =
      (ofNode r n).descend root (root.get? path) path) (parent : String) :
    memberFindings root parent (ofNodes r ns) =
      descendMembers root (root.get? parent) parent (ofNodes r ns) := by
  have hseg : ∀ n ∈ ns, Path.IsSegment n.id := fun n hn => hids.isSegment_id hn
  clear hids
  induction ns with
  | nil => rfl
  | cons n ns ih =>
      have hvalue : root.get? (Path.join parent n.id) =
          (root.get? parent).bind (·.step? n.id) := by
        rw [Json.get?_join (hseg n List.mem_cons_self)]
        cases hv : root.get? parent with
        | none => rfl
        | some v => exact Json.child?_eq_step? (hroot.get? hv) n.id
      rw [ofNodes, memberFindings, descendMembers, id_ofNode, ← hvalue,
        hnode n List.mem_cons_self,
        ih (fun m hm => hnode m (List.mem_cons_of_mem n hm))
          fun m hm => hseg m (List.mem_cons_of_mem n hm)]

/-- The items of an array are visited with their indices, each where its index
says. -/
theorem range_flatMap_eq_zipIdx {root : Json} (hroot : root.Indexable) {path : String}
    {xs : List Json} (hxs : root.get? path = some (.arr xs)) (p : Plan)
    (hitem : ∀ path, p.findings root path = p.descend root (root.get? path) path) :
    ((List.range xs.length).flatMap fun i => p.findings root (Path.item path i)) =
      xs.zipIdx.flatMap fun (x, i) => p.descend root (some x) (Path.item path i) := by
  have hrange : List.range xs.length = xs.zipIdx.map Prod.snd := by
    rw [List.zipIdx_map_snd, List.range_eq_range']
  rw [hrange, List.flatMap_map, List.flatMap_def, List.flatMap_def]
  refine congrArg List.flatten (List.map_congr_left fun xi hxi => ?_)
  have hx := List.mem_zipIdx_iff_getElem?.mp hxi
  rw [hitem, Json.get?_item hroot hxs hx]

/-- A node says the same on both sides, so it is enough to compare what is
below it. -/
theorem findings_eq_descend_of_below {p : Plan} {root : Json} {path : String}
    (hbelow : p.below root path = p.belowAt root (root.get? path) path) :
    p.findings root path = p.descend root (root.get? path) path := by
  rw [findings_eq, descend_eq, wording?_eq]
  cases p.wordingAt? root (root.get? path) with
  | some w => rfl
  | none => exact hbelow

theorem findings_eq_descend {r : Registry} {root : Json} (hroot : root.Indexable)
    {n : Node} (hwf : n.WellFormed) :
    ∀ path, (ofNode r n).findings root path =
      (ofNode r n).descend root (root.get? path) path := by
  induction n using Tree.induction with
  | leaf c => exact fun path => findings_eq_descend_of_below rfl
  | fields c members ih =>
      intro path
      obtain ⟨hids, hmembers⟩ := Node.wellFormed_fields.mp hwf
      refine findings_eq_descend_of_below ?_
      exact memberFindings_eq_descendMembers hroot hids
        (fun m hm => ih m hm (hmembers m hm)) path
  | element c item ih =>
      intro path
      have hitem := ih (Node.wellFormed_element.mp hwf)
      refine findings_eq_descend_of_below ?_
      rw [ofNode, below]
      cases hv : root.get? path with
      | none => rfl
      | some value =>
          cases value with
          | arr xs => exact range_flatMap_eq_zipIdx hroot hv _ hitem
          | null | bool | num | str | obj => rfl

end Plan

namespace Validator

variable {nodes : List Node} {caller : Registry} {v : Validator}

/-- Reading every value anew at its path from the root finds what carrying the
values down finds. -/
theorem messages_eq_descend (h : Validator.new nodes caller = .ok v) {data : Json}
    (hdata : data.Indexable) :
    v.messages data =
      (Plan.descendMembers data (some data) "" v.plan).map Finding.message := by
  have hv := new_ok h
  rw [messages_eq_findings, hv.findings_eq, hv.plan_eq]
  rw [Plan.memberFindings_eq_descendMembers hdata hv.wellFormed.ids
    fun n hn => Plan.findings_eq_descend hdata (hv.wellFormed.nodes n hn)]
  rfl

theorem messages_eq_descend_addressBook :
    ∃ v, Validator.new addressBook .empty = .ok v ∧ addresses.Indexable ∧
      v.messages addresses =
        (Plan.descendMembers addresses (some addresses) "" v.plan).map
          Finding.message := by
  have hdata : addresses.Indexable := by
    simp [addresses, Json.indexable_object, Json.Indexable, Json.ItemsIndexable]
  exact ⟨_, rfl, hdata, @messages_eq_descend addressBook .empty _ rfl _ hdata⟩

end Validator

end ConstraintTree

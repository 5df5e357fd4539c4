import ConstraintTree.Proofs.Path

/-!
# Where a path leads

`get?` treats the empty path apart, and `join` the empty parent, while an empty
segment within a path is a key like any other. The two exceptions fit together.
Reading at a joined path is reading twice, whatever dots there are on either side,
as long as something is joined, and a path that was put together by joining is cut
into what was joined, as long as it does not begin with an empty segment.

A path is a spelling of a position, which is a list of keys and of indices from the
root. No position has two spellings in one document. For keys there is nothing to
choose. For indices it is a matter of their decimals: a segment is an index only if it
is the decimal of that index. So a value and a selector of it determine the segment
(`selector?_injective`), and a document and a position determine the path.
-/

namespace ConstraintTree

/-! ## Joining -/

namespace Path

/-- Segments that are joined one after another are the segments of the outcome. -/
theorem segments_foldl_join {ss : List String} (hss : ∀ s ∈ ss, '.' ∉ s.toList) {parent : String}
    (hparent : parent ≠ "") : segments (ss.foldl join parent) = segments parent ++ ss := by
  induction ss generalizing parent with
  | nil => rw [List.foldl_nil, List.append_nil]
  | cons s ss ih =>
      obtain ⟨hs, hss⟩ := List.forall_mem_cons.mp hss
      rw [List.foldl_cons, ih hss (join_ne_empty_of_ne hparent s), join_of_ne hparent,
        segments_append_dot, segments_of_no_dot hs, List.append_assoc, List.singleton_append]

end Path

namespace Json

theorem get?_eq_descend?_segments (data : Json) {path : String} (h : path ≠ "") :
    data.get? path = data.descend? (Path.segments path) := by
  rw [get?_eq_descend?, Path.steps_of_ne h]

theorem get?_join_eq_bind {q : String} (hq : q ≠ "") (data : Json) (p : String) :
    data.get? (Path.join p q) = (data.get? p).bind (·.get? q) := by
  by_cases hp : p = ""
  · subst hp
    rfl
  · rw [get?_join_of_ne hp]
    exact congrArg (Option.bind _) (funext fun v => (v.get?_eq_descend?_segments hq).symm)

/-- Reading at a joined path is reading at the parent and then at what was joined.
A joined index leads to an item, or to the member of that name, or nowhere. Cutting
undoes joining. -/
theorem get?_comp_join :
    (∀ (data : Json) (p q : String), q ≠ "" →
      data.get? (Path.join p q) = (data.get? p).bind (·.get? q)) ∧
    (∀ (data : Json) (p : String) (i : Nat), i < 0x10000000000000000 →
      data.get? (Path.item p i) =
        match data.get? p with
        | some (.arr xs) => xs[i]?
        | some (.obj ms) => ms.lookup (Nat.repr i)
        | _ => none) ∧
    ∀ (s : String) (ss : List String), s ≠ "" → (∀ t ∈ s :: ss, '.' ∉ t.toList) →
      Path.segments ((s :: ss).foldl Path.join "") = s :: ss := by
  refine ⟨fun data p q hq => get?_join_eq_bind hq data p,
    fun data p i hi => get?_item_eq hi data p, fun s ss hs hdots => ?_⟩
  obtain ⟨hdot, hdots⟩ := List.forall_mem_cons.mp hdots
  rw [List.foldl_cons, Path.join, if_pos rfl, Path.segments_foldl_join hdots hs,
    Path.segments_of_no_dot hdot, List.singleton_append]

/-- Keys that are empty or look like indices, and the same value in two places. -/
def oddKeys : Json :=
  .object [("", .object [("", .arr [.str "x", .str "x"])]),
    ("a", .object [("", .object [("1", .str "y")])])]

theorem get?_comp_join_oddKeys :
    ("1" ≠ "" ∧ oddKeys.get? (Path.join "." "1") = (oddKeys.get? ".").bind (·.get? "1") ∧
      oddKeys.get? (Path.join "." "1") = some (.str "x")) ∧
    ((1 : Nat) < 0x10000000000000000 ∧
      oddKeys.get? (Path.item "." 1) = some (.str "x") ∧
      oddKeys.get? (Path.item "a." 1) = some (.str "y")) ∧
    ("a" ≠ "" ∧ (∀ t ∈ ["a", "", "1"], '.' ∉ t.toList) ∧
      Path.segments (["a", "", "1"].foldl Path.join "") = ["a", "", "1"]) := by
  have hne : "1" ≠ "" := by decide
  have hlt : 1 < 0x10000000000000000 := by decide
  have hdots : ∀ t ∈ ["a", "", "1"], '.' ∉ t.toList := by decide
  refine ⟨⟨hne, get?_comp_join.1 _ _ _ hne, rfl⟩, ⟨hlt, ?_, ?_⟩, by decide, hdots,
    get?_comp_join.2.2 _ _ (by decide) hdots⟩
  · exact get?_comp_join.2.1 oddKeys "." 1 hlt
  · exact get?_comp_join.2.1 oddKeys "a." 1 hlt

end Json

/-! ## Positions -/

/-- One step down in a document. -/
inductive Selector where
  | member (key : String)
  | item (i : Nat)
  deriving DecidableEq, Repr

namespace Json

/-- The value that one selector leads to. A selector of the other kind leads nowhere. -/
def select? : Json → Selector → Option Json
  | .obj ms, .member key => ms.lookup key
  | .arr xs, .item i => xs[i]?
  | _, _ => none

/-- The value at a position, the selectors being told from the root. -/
def at? (data : Json) (position : List Selector) : Option Json :=
  position.foldlM select? data

/-- What a segment selects in a value. -/
def selector? (v : Json) (segment : String) : Option Selector :=
  match v with
  | .obj _ => some (.member segment)
  | .arr _ => (Path.index? segment).map .item
  | _ => none

/-- The position that segments lead to, as long as there is a value. -/
def trace? (data : Json) : List String → Option (List Selector)
  | [] => some []
  | s :: ss =>
    (data.selector? s).bind fun x =>
      (data.select? x).bind fun v => (v.trace? ss).map (x :: ·)

/-- The position that a path leads to. -/
def position? (data : Json) (path : String) : Option (List Selector) :=
  data.trace? (Path.steps path)

theorem child?_eq_select? (v : Json) (s : String) :
    v.child? s = (v.selector? s).bind v.select? := by
  cases v with
  | arr xs =>
      rw [child?, selector?]
      cases Path.index? s <;> rfl
  | _ => rfl

theorem descend?_eq_at? (data : Json) (ss : List String) :
    data.descend? ss = (data.trace? ss).bind data.at? := by
  induction ss generalizing data with
  | nil => rfl
  | cons s ss ih =>
      rw [descend?, trace?, child?_eq_select?]
      cases data.selector? s with
      | none => rfl
      | some x =>
          rw [Option.bind_some, Option.bind_some]
          cases hv : data.select? x with
          | none => rfl
          | some v =>
              rw [Option.bind_some, Option.bind_some, ih, Option.bind_map]
              refine congrArg (Option.bind _) (funext fun xs => ?_)
              rw [Function.comp_apply, at?, at?, List.foldlM_cons, hv]
              rfl

theorem selector?_injective {v : Json} {s t : String} {x : Selector}
    (hs : v.selector? s = some x) (ht : v.selector? t = some x) : s = t := by
  cases v with
  | obj ms =>
      cases hs
      cases ht
      rfl
  | arr xs =>
      obtain ⟨i, hi, rfl⟩ := Option.map_eq_some_iff.mp hs
      obtain ⟨j, hj, hij⟩ := Option.map_eq_some_iff.mp ht
      cases hij
      rw [(Path.index?_eq_some_iff.mp hi).1, (Path.index?_eq_some_iff.mp hj).1]
  | _ => cases hs

theorem trace?_cons_eq_some_iff {data : Json} {s : String} {ss : List String}
    {position : List Selector} :
    data.trace? (s :: ss) = some position ↔
      ∃ x v xs, data.selector? s = some x ∧ data.select? x = some v ∧
        v.trace? ss = some xs ∧ x :: xs = position := by
  simp only [trace?, Option.bind_eq_some_iff, Option.map_eq_some_iff]
  constructor
  · rintro ⟨x, hx, v, hv, xs, hxs, heq⟩
    exact ⟨x, v, xs, hx, hv, hxs, heq⟩
  · rintro ⟨x, v, xs, hx, hv, hxs, heq⟩
    exact ⟨x, hx, v, hv, xs, hxs, heq⟩

/-- In one document, segments are told from the position that they lead to. -/
theorem trace?_injective {data : Json} {ss ts : List String} {position : List Selector}
    (hs : data.trace? ss = some position) (ht : data.trace? ts = some position) : ss = ts := by
  induction ss generalizing data ts position with
  | nil =>
      cases hs
      cases ts with
      | nil => rfl
      | cons t ts =>
          obtain ⟨_, _, _, _, _, _, heq⟩ := trace?_cons_eq_some_iff.mp ht
          cases heq
  | cons s ss ih =>
      obtain ⟨x, v, xs, hx, hv, hxs, rfl⟩ := trace?_cons_eq_some_iff.mp hs
      cases ts with
      | nil => cases ht
      | cons t ts =>
          obtain ⟨y, w, ys, hy, hw, hys, heq⟩ := trace?_cons_eq_some_iff.mp ht
          -- The first selector is the same, so both go on from the same value.
          cases heq
          obtain rfl : v = w := Option.some.inj (hv.symm.trans hw)
          rw [selector?_injective hx hy, ih hxs hys]

theorem position?_injective {data : Json} {p q : String} {position : List Selector}
    (hp : data.position? p = some position) (hq : data.position? q = some position) : p = q :=
  Path.steps_injective (trace?_injective hp hq)

/-- A path that leads to a value leads to its position, and there the value stands. -/
theorem exists_position {data : Json} {path : String} {v : Json}
    (h : data.get? path = some v) :
    ∃ position, data.position? path = some position ∧ data.at? position = some v := by
  rw [get?_eq_descend?, descend?_eq_at?] at h
  exact Option.bind_eq_some_iff.mp h

/-- A segment is an index if it is the decimal of a number of 64 bits, which is to
say, if it passes for a decimal and its digits, read one by one, fit. Two paths that
lead somewhere lead to two positions. -/
theorem positions_ne_of_ne :
    (∀ s i, Path.index? s = some i ↔ s = Nat.repr i ∧ i < 0x10000000000000000) ∧
    (∀ s i, Path.index? s = some i ↔
      Path.IsDecimal s.toList ∧ Path.readFitting? 0 s.toList = some i) ∧
    ∀ (data : Json) (p q : String) (v w : Json),
      data.get? p = some v → data.get? q = some w → p ≠ q →
      ∃ a b, data.position? p = some a ∧ data.at? a = some v ∧
        data.position? q = some b ∧ data.at? b = some w ∧ a ≠ b := by
  refine ⟨fun _ _ => Path.index?_eq_some_iff, fun _ _ => Path.index?_eq_some_iff_read,
    fun data p q v w hp hq hne => ?_⟩
  obtain ⟨a, ha, hav⟩ := exists_position hp
  obtain ⟨b, hb, hbw⟩ := exists_position hq
  refine ⟨a, b, ha, hav, hb, hbw, fun hab => hne ?_⟩
  exact position?_injective ha (hab ▸ hb)

theorem positions_ne_of_ne_oddKeys :
    (oddKeys.get? "..0" = some (.str "x") ∧ oddKeys.get? "..1" = some (.str "x") ∧
      "..0" ≠ "..1" ∧
      ∃ a b, oddKeys.position? "..0" = some a ∧ oddKeys.at? a = some (.str "x") ∧
        oddKeys.position? "..1" = some b ∧ oddKeys.at? b = some (.str "x") ∧ a ≠ b) ∧
    oddKeys.position? "..1" = some [.member "", .member "", .item 1] ∧
    oddKeys.position? "a..1" = some [.member "a", .member "", .member "1"] ∧
    oddKeys.position? "..01" = none := by
  have hne : "..0" ≠ "..1" := by decide
  exact ⟨⟨rfl, rfl, hne, positions_ne_of_ne.2.2 oddKeys _ _ _ _ rfl rfl hne⟩, rfl, rfl, rfl⟩

end Json

end ConstraintTree

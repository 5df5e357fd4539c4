import ConstraintTree.Proofs.Decimal

/-!
# Paths, one step at a time

A path is a text, and everything that walks a schema builds its paths by
`join` and has them taken apart again by `get?`. What the walks need to know
is that nothing is lost on the way: as long as every piece is a segment, that
is not empty and without a dot, joining a piece to a path adds one step to the
steps of the path, and reading at the longer path is reading at the shorter one
and then going one step further.

The empty path takes no steps at all, although cutting the empty text gives one
piece. Hence `steps`, which says so, beside `segments`, which does not.
-/

namespace ConstraintTree

namespace Path

/-- A text that can stand between two dots and is told from no text. -/
structure IsSegment (s : String) : Prop where
  ne_empty : s ≠ ""
  no_dot : '.' ∉ s.toList

/-- The steps that a path takes from the root. -/
def steps (path : String) : List String :=
  if path = "" then [] else segments path

@[simp] theorem steps_empty : steps "" = [] := rfl

theorem steps_of_ne {path : String} (h : path ≠ "") :
    steps path = segments path := if_neg h

/-! ## Cutting at dots -/

theorem segments_ne_nil (path : String) : segments path ≠ [] := by
  rw [segments, Ne, List.map_eq_nil_iff]
  exact List.splitOn_ne_nil '.' path.toList

theorem segments_of_no_dot {s : String} (h : '.' ∉ s.toList) :
    segments s = [s] := by
  rw [segments, List.splitOn_eq_singleton h, List.map_singleton, String.ofList_toList]

theorem segments_append_dot (p s : String) :
    segments (p ++ "." ++ s) = segments p ++ segments s := by
  have hlist : (p ++ "." ++ s).toList = p.toList ++ '.' :: s.toList := by
    simp [String.toList_append]
  rw [segments, hlist, List.splitOn_append_cons_self, List.map_append, segments, segments]

theorem segments_injective {p q : String} (h : segments p = segments q) :
    p = q := by
  have hpieces : p.toList.splitOn '.' = q.toList.splitOn '.' :=
    (List.map_inj_right fun _ _ => String.ofList_inj.mp).mp h
  have hlists := congrArg (List.intercalate ['.']) hpieces
  rw [List.intercalate_splitOn, List.intercalate_splitOn] at hlists
  exact String.toList_inj.mp hlists

/-! ## Joining -/

theorem join_of_ne {parent : String} (h : parent ≠ "") (s : String) :
    join parent s = parent ++ "." ++ s := if_neg h

theorem join_ne_empty {parent s : String} (hs : s ≠ "") :
    join parent s ≠ "" := by
  rw [join]
  split
  · exact hs
  · intro h
    have := congrArg String.toList h
    simp [String.toList_append] at this

theorem join_ne_empty_of_ne {parent : String} (h : parent ≠ "") (s : String) :
    join parent s ≠ "" := by
  rw [join_of_ne h]
  intro hjoin
  have hfront := (String.append_eq_empty_iff.mp hjoin).1
  exact h (String.append_eq_empty_iff.mp hfront).1

/-- Joining a segment to a path is taking one more step. -/
theorem steps_join {s : String} (hs : IsSegment s) (parent : String) :
    steps (join parent s) = steps parent ++ [s] := by
  rw [steps_of_ne (join_ne_empty hs.ne_empty), join]
  split
  · next hparent =>
      rw [hparent, steps_empty, segments_of_no_dot hs.no_dot]
      rfl
  · next hparent =>
      rw [segments_append_dot, segments_of_no_dot hs.no_dot,
        steps_of_ne hparent]

/-- Joining anything to a path that is not empty is taking the steps that it is
cut into. -/
theorem steps_join_of_ne {parent : String} (h : parent ≠ "") (s : String) :
    steps (join parent s) = steps parent ++ segments s := by
  rw [steps_of_ne (join_ne_empty_of_ne h s), join_of_ne h, segments_append_dot,
    steps_of_ne h]

theorem steps_injective {p q : String} (h : steps p = steps q) : p = q := by
  by_cases hp : p = "" <;> by_cases hq : q = ""
  · rw [hp, hq]
  · rw [hp, steps_empty, steps_of_ne hq] at h
    exact absurd h.symm (segments_ne_nil q)
  · rw [hq, steps_empty, steps_of_ne hp] at h
    exact absurd h (segments_ne_nil p)
  · rw [steps_of_ne hp, steps_of_ne hq] at h
    exact segments_injective h

theorem join_injective {p q s t : String} (hs : IsSegment s) (ht : IsSegment t)
    (h : join p s = join q t) : p = q ∧ s = t := by
  have hsteps := congrArg steps h
  rw [steps_join hs, steps_join ht] at hsteps
  obtain ⟨hpq, hst⟩ := List.append_inj' hsteps rfl
  exact ⟨steps_injective hpq, List.cons.inj hst |>.1⟩

/-! ## Indices -/

theorem isSegment_repr (i : Nat) : IsSegment (Nat.repr i) where
  ne_empty h := by
    have hlist := congrArg String.toList h
    rw [Nat.toList_repr] at hlist
    exact Nat.toDigits_ne_nil hlist
  no_dot h := by
    rw [Nat.toList_repr] at h
    have := Nat.isDigit_of_mem_toDigits (by decide) (by decide) h
    exact absurd this (by decide)

theorem steps_item (parent : String) (i : Nat) :
    steps (item parent i) = steps parent ++ [Nat.repr i] :=
  steps_join (isSegment_repr i) parent

end Path

namespace Json

/-! ## Reading -/

theorem get?_eq_descend? (data : Json) (path : String) :
    data.get? path = data.descend? (Path.steps path) := by
  rw [get?, Path.steps]
  split <;> rfl

theorem descend?_append (data : Json) (ss ts : List String) :
    data.descend? (ss ++ ts) = (data.descend? ss).bind (·.descend? ts) := by
  induction ss generalizing data with
  | nil => rfl
  | cons s ss ih =>
      rw [List.cons_append, descend?, descend?]
      cases data.child? s with
      | none => rfl
      | some v => exact ih v

/-- Reading at a joined path is reading at its parent and going one step on. -/
theorem get?_join {s : String} (hs : Path.IsSegment s) (data : Json)
    (parent : String) :
    data.get? (Path.join parent s) = (data.get? parent).bind (·.child? s) := by
  rw [get?_eq_descend?, get?_eq_descend?, Path.steps_join hs, descend?_append]
  congr 1
  funext v
  rw [descend?]
  cases v.child? s <;> rfl

theorem get?_join_of_ne {parent : String} (h : parent ≠ "") (data : Json)
    (s : String) :
    data.get? (Path.join parent s) =
      (data.get? parent).bind (·.descend? (Path.segments s)) := by
  rw [get?_eq_descend?, get?_eq_descend?, Path.steps_join_of_ne h, descend?_append]

theorem child?_repr {i : Nat} (hi : i < 0x10000000000000000) (v : Json) :
    v.child? (Nat.repr i) =
      match v with
      | .arr xs => xs[i]?
      | .obj ms => ms.lookup (Nat.repr i)
      | _ => none := by
  cases v with
  | arr xs => rw [child?, Path.index?_eq_some_iff.mpr ⟨rfl, hi⟩, Option.bind_some]
  | _ => rfl

/-- Reading at a joined index depends on what stands at the parent. -/
theorem get?_item_eq {i : Nat} (hi : i < 0x10000000000000000) (data : Json) (parent : String) :
    data.get? (Path.item parent i) =
      match data.get? parent with
      | some (.arr xs) => xs[i]?
      | some (.obj ms) => ms.lookup (Nat.repr i)
      | _ => none := by
  rw [Path.item, get?_join (Path.isSegment_repr i)]
  cases data.get? parent with
  | none => rfl
  | some v =>
      rw [Option.bind_some, child?_repr hi]
      cases v <;> rfl

end Json

end ConstraintTree

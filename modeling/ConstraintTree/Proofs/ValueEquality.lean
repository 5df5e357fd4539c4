import Mathlib.Data.List.Forall2
import Mathlib.Data.List.Nodup
import ConstraintTree.Proofs.Comparison
import ConstraintTree.Proofs.Spelling

/-!
# Equality of values

Two numbers are equal if they are rounded to one float, and anything else is equal
by its structure, in which numbers are told apart by kind and value. These are two
notions of one number, and yet they make up one equivalence.

To see that, it is enough to say what equality sees of a value (`Json.aspect`). Of
a number it sees the rounded value. Of anything else it sees the structure without
the signs of zeros, as a zero with a sign passes for one without it. Two values are
equal exactly if the same is seen of both, so equality has all that equality of
aspects has, and whether a value is one of some options is a matter of which
aspects they have (`Builtin.oneOf_iff`).
-/

namespace ConstraintTree

/-! ## Structure without the signs of zeros -/

/-- The same number, without the sign if it is zero. -/
def Binary64.unsigned (x : Binary64) : Binary64 :=
  { x with negative := x.negative && x.magnitude != 0 }

theorem Binary64.unsigned_inj {x y : Binary64} : x == y ↔ x.unsigned = y.unsigned := by
  have hunits : x == y ↔ x.units = y.units := beq_iff_eq (a := x.units)
  rw [hunits, unsigned, unsigned, units, units, Binary64.mk.injEq]
  cases x.negative <;> cases y.negative <;> grind

/-- The same number, without the sign if it is a zero. -/
def Number.unsigned : Number → Number
  | .int n low high => .int n low high
  | .float x => .float x.unsigned

theorem Number.unsigned_inj {a b : Number} : a == b ↔ a.unsigned = b.unsigned := by
  cases a with
  | int n low high =>
      cases b with
      | int m _ _ => rw [unsigned, unsigned, Number.int.injEq]; exact beq_iff_eq (a := n)
      | float y => constructor <;> intro h <;> cases h
  | float x =>
      cases b with
      | int m _ _ => constructor <;> intro h <;> cases h
      | float y => rw [unsigned, unsigned, Number.float.injEq]; exact Binary64.unsigned_inj

theorem Number.value_eq_of_beq {a b : Number} (h : a == b) : a.value = b.value := by
  cases a with
  | int n low high =>
      cases b with
      | int m _ _ => exact congrArg Int.cast (beq_iff_eq (a := n).mp h)
      | float y => cases h
  | float x =>
      cases b with
      | int m _ _ => cases h
      | float y => exact (Binary64.beq_iff x y).mp h

namespace Json

mutual

/-- The same value, without the sign of any zero in it. -/
def unsigned : Json → Json
  | .num a => .num a.unsigned
  | .arr xs => .arr (unsignedItems xs)
  | .obj ms => .obj (unsignedMembers ms)
  | v => v

/-- The items of an array, without the signs of zeros. -/
def unsignedItems : List Json → List Json
  | [] => []
  | x :: xs => unsigned x :: unsignedItems xs

/-- The members of an object, without the signs of zeros. -/
def unsignedMembers {b : Option String} : Members Json b → Members Json b
  | .nil => .nil
  | .cons k x past ms => .cons k (unsigned x) past (unsignedMembers ms)

end

theorem sameItems_iff {xs : List Json}
    (h : ∀ x ∈ xs, ∀ y, same x y = true ↔ x.unsigned = y.unsigned) (ys : List Json) :
    sameItems xs ys = true ↔ unsignedItems xs = unsignedItems ys := by
  induction xs generalizing ys with
  | nil => cases ys <;> simp [sameItems, unsignedItems]
  | cons x xs ih =>
      obtain ⟨hx, hxs⟩ := List.forall_mem_cons.mp h
      cases ys with
      | nil => simp [sameItems, unsignedItems]
      | cons y ys =>
          rw [sameItems, unsignedItems, unsignedItems, Bool.and_eq_true, List.cons.injEq, hx y,
            ih hxs ys]

theorem sameMembers_iff {b : Option String} {ms : Members Json b}
    (h : ∀ m ∈ ms.toList, ∀ y, same m.2 y = true ↔ m.2.unsigned = y.unsigned)
    (ns : Members Json b) :
    sameMembers ms ns = true ↔ unsignedMembers ms = unsignedMembers ns := by
  induction ms with
  | nil => cases ns <;> simp [sameMembers, unsignedMembers]
  | cons k x _ ms ih =>
      obtain ⟨hx, hms⟩ := List.forall_mem_cons.mp h
      cases ns with
      | nil => simp [sameMembers, unsignedMembers]
      | cons l y _ ns =>
          rw [sameMembers, unsignedMembers, unsignedMembers, Bool.and_eq_true, Bool.and_eq_true,
            Members.cons.injEq, beq_iff_eq, hx y, and_assoc]
          -- The cells behind two keys can only be compared if the keys are the same.
          refine and_congr_right fun hkey => ?_
          subst hkey
          rw [ih hms ns, heq_eq_eq]

theorem same_iff (v w : Json) : same v w = true ↔ v.unsigned = w.unsigned := by
  induction v using Json.induction generalizing w with
  | null => cases w <;> simp [same, unsigned]
  | bool b => cases w <;> simp [same, unsigned]
  | num a =>
      cases w with
      | num b => rw [same, unsigned, unsigned, Json.num.injEq]; exact Number.unsigned_inj
      | _ => simp [same, unsigned]
  | str s => cases w <;> simp [same, unsigned]
  | arr xs ih =>
      cases w with
      | arr ys => rw [same, unsigned, unsigned, Json.arr.injEq]; exact sameItems_iff ih ys
      | _ => simp [same, unsigned]
  | obj ms ih =>
      cases w with
      | obj ns => rw [same, unsigned, unsigned, Json.obj.injEq]; exact sameMembers_iff ih ns
      | _ => simp [same, unsigned]

/-! ## What equality sees -/

/-- What equality sees of a value. -/
def aspect : Json → ℚ ⊕ Json
  | .num a => .inl a.rounded
  | v => .inr v.unsigned

theorem equalValue_iff (v w : Json) : v.equalValue w ↔ v.aspect = w.aspect := by
  cases v with
  | num a =>
      cases w with
      | num b => rw [aspect, aspect, Sum.inl.injEq]; exact Binary64.beq_iff _ _
      | _ => exact iff_of_false (fun h => nomatch h) (fun h => nomatch h)
  | _ =>
      cases w with
      | num b => exact iff_of_false (fun h => nomatch h) (fun h => nomatch h)
      | _ => exact (same_iff _ _).trans Sum.inr_injective.eq_iff.symm

/-- The same structure shows the same aspect. -/
theorem aspect_eq_of_beq {v w : Json} (h : v == w) : v.aspect = w.aspect := by
  have hunsigned := (same_iff v w).mp h
  cases v with
  | num a =>
      cases w with
      | num b =>
          rw [aspect, aspect, Number.rounded_eq_of_value_eq (Number.value_eq_of_beq h)]
      | _ => cases hunsigned
  | _ =>
      cases w with
      | num b => cases hunsigned
      | _ => exact congrArg Sum.inr hunsigned

/-! ## Objects have no order -/

theorem object_eq_of_perm {ms ns : List (String × Json)} (hkeys : (ms.map Prod.fst).Nodup)
    (h : ms.Perm ns) : object ms = object ns := by
  refine congrArg obj (h.foldl_eq' (fun m hm n hn rest => ?_) Members.nil)
  by_cases heq : m = n
  · rw [heq]
  · exact Members.insert_comm
      (fun hkey => heq (List.inj_on_of_nodup_map hkeys hm hn hkey.symm)) _ _ _

/-- A number two levels down. -/
def within (a : Number) : Json := .object [("at", .arr [.num a])]

end Json

namespace Builtin

theorem equals_iff (v w : Json) : equals (.pair v w) ↔ v.aspect = w.aspect :=
  v.equalValue_iff w

/-- Whether a value is one of some options depends on the aspects that these have. -/
theorem oneOf_iff (v : Json) (options : List Json) :
    oneOf (.pair v (.arr options)) ↔ v.aspect ∈ options.map Json.aspect := by
  rw [oneOf_pair, List.any_eq_true, List.mem_map]
  exact exists_congr fun w => and_congr_right fun _ => (v.equalValue_iff w).trans eq_comm

theorem oneOf_congr {v w : Json} {xs ys : List Json} (hvalue : v.aspect = w.aspect)
    (hoptions : ∀ a, a ∈ xs.map Json.aspect ↔ a ∈ ys.map Json.aspect) :
    oneOf (.pair v (.arr xs)) = oneOf (.pair w (.arr ys)) := by
  rw [Bool.eq_iff_iff, oneOf_iff, oneOf_iff, hvalue]
  exact hoptions _

/-- Equality of values is an equivalence and holds of values of one structure, in which the
order of members does not count. Whether a value is one of some options is the same for equal
values, and for the same options in whatever order and however often, and for options that
are equal one by one. -/
theorem equals_equivalence :
    (∀ v, equals (.pair v v)) ∧
    (∀ v w, equals (.pair v w) → equals (.pair w v)) ∧
    (∀ u v w, equals (.pair u v) → equals (.pair v w) → equals (.pair u w)) ∧
    (∀ v w, v == w → equals (.pair v w)) ∧
    (∀ ms ns, (ms.map Prod.fst).Nodup → ms.Perm ns →
      equals (.pair (.object ms) (.object ns))) ∧
    (∀ v w xs, equals (.pair v w) →
      oneOf (.pair v (.arr xs)) = oneOf (.pair w (.arr xs))) ∧
    (∀ v xs ys, (∀ x, x ∈ xs ↔ x ∈ ys) →
      oneOf (.pair v (.arr xs)) = oneOf (.pair v (.arr ys))) ∧
    ∀ v xs ys, List.Forall₂ (fun x y => equals (.pair x y)) xs ys →
      oneOf (.pair v (.arr xs)) = oneOf (.pair v (.arr ys)) := by
  refine ⟨fun v => ?_, fun v w hvw => ?_, fun u v w huv hvw => ?_, fun v w hsame => ?_,
    fun ms ns hkeys hperm => ?_, fun v w xs hvw => ?_, fun v xs ys hmem => ?_,
    fun v xs ys hxy => ?_⟩
  · exact (equals_iff v v).mpr rfl
  · exact (equals_iff w v).mpr ((equals_iff v w).mp hvw).symm
  · exact (equals_iff u w).mpr (((equals_iff u v).mp huv).trans ((equals_iff v w).mp hvw))
  · exact (equals_iff v w).mpr (Json.aspect_eq_of_beq hsame)
  · rw [Json.object_eq_of_perm hkeys hperm]
    exact (equals_iff _ _).mpr rfl
  · exact oneOf_congr ((equals_iff v w).mp hvw) fun _ => Iff.rfl
  · refine oneOf_congr rfl fun a => ?_
    rw [List.mem_map, List.mem_map]
    exact exists_congr fun x => and_congr_left fun _ => hmem x
  · have haspects : xs.map Json.aspect = ys.map Json.aspect := by
      rw [← List.forall₂_eq_eq_eq, List.forall₂_map_left_iff, List.forall₂_map_right_iff]
      exact hxy.imp fun x y => (equals_iff x y).mp
    exact oneOf_congr rfl fun a => by rw [haspects]

/-- Zeros of two signs and of two kinds, by themselves and inside of a value. -/
theorem equals_equivalence_zeros :
    (Json.within (.float (.zero false)) == Json.within .negativeZero ∧
      equals (.pair (Json.within (.float (.zero false))) (Json.within .negativeZero))) ∧
    equals (.pair (Json.within .zero) (Json.within .negativeZero)) = false ∧
    (equals (.pair (.num .zero) (.num .negativeZero)) ∧
      equals (.pair (.num .negativeZero) (.num .zero)) ∧
      oneOf (.pair (.num .zero) (.arr [.null, .num .negativeZero])) =
        oneOf (.pair (.num .negativeZero) (.arr [.null, .num .negativeZero])) ∧
      oneOf (.pair (.num .zero) (.arr [.num .zero, .null])) =
        oneOf (.pair (.num .zero) (.arr [.num .negativeZero, .null]))) ∧
    oneOf (.pair (.num .zero) (.arr [.null, .num .negativeZero])) =
      oneOf (.pair (.num .zero) (.arr [.num .negativeZero, .null, .num .negativeZero])) ∧
    equals (.pair (.object [("b", .null), ("a", .num .zero)])
      (.object [("a", .num .zero), ("b", .null)])) := by
  obtain ⟨hrefl, hsymm, -, hsame, hobject, hvalue, hmem, hoptions⟩ := equals_equivalence
  have hinside : Json.within (.float (.zero false)) == Json.within .negativeZero := by
    decide +kernel
  have hzero : equals (.pair (.num .zero) (.num .negativeZero)) := by decide +kernel
  refine ⟨⟨hinside, hsame _ _ hinside⟩, by decide +kernel,
    ⟨hzero, hsymm _ _ hzero, hvalue _ _ _ hzero, ?_⟩, ?_, ?_⟩
  · exact hoptions _ _ _ (.cons hzero (.cons (hrefl .null) .nil))
  · exact hmem _ _ _ fun x => by
      simp only [List.mem_cons, List.not_mem_nil, or_false]
      tauto
  · exact hobject _ _ (by decide) (.swap _ _ _)

end Builtin

end ConstraintTree

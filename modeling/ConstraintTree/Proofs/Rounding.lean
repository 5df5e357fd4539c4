import Mathlib.Algebra.Order.Field.Basic
import Mathlib.Algebra.Order.Field.Rat
import Mathlib.Algebra.Order.Ring.Cast
import Mathlib.Data.Int.CharZero
import ConstraintTree.Number.Basic

/-!
# Rounding integers to floats

Every integer can be compared with a float once it is rounded to one. This file
says what rounding keeps and what it loses.

What a rounding is follows from two facts: its result is a value that the format
holds, and no value that the format holds is nearer to what was rounded
(`natAbs_sub_nearest_le`). So rounding leaves alone what the format holds
already, and it never turns the order of two numbers around (`nearest_mono`),
although two numbers may become one.

All of this is about whole multiples of the smallest positive float. The last
part speaks of the values themselves. A float has the value that it had, an
integer of at most 53 bits has its own, and for all others there is at least the
order.
-/

namespace ConstraintTree

namespace Binary64

/-! ## The nearest multiple -/

/-- The multiple that rounding picks is half a step away at most. -/
theorem two_mul_natAbs_sub_divRoundEven_le (num : Nat) {den : Nat} (hden : 0 < den) :
    2 * ((num : Int) - (divRoundEven num den * den : Nat)).natAbs ≤ den := by
  have hnum : num / den * den + num % den = num := Nat.div_add_mod' num den
  have hrem : num % den < den := Nat.mod_lt num hden
  have hnext : (num / den + 1) * den = num / den * den + den := Nat.succ_mul _ _
  simp only [divRoundEven]
  split
  · omega
  · rw [hnext]
    omega

/-- So no multiple is nearer. -/
theorem natAbs_sub_divRoundEven_le (num k : Nat) {den : Nat} (hden : 0 < den) :
    ((num : Int) - (divRoundEven num den * den : Nat)).natAbs ≤
      ((num : Int) - (k * den : Nat)).natAbs := by
  have hhalf := two_mul_natAbs_sub_divRoundEven_le num hden
  rcases Nat.lt_trichotomy k (divRoundEven num den) with h | rfl | h
  · have hstep := Nat.mul_le_mul_right den h
    rw [Nat.succ_mul] at hstep
    omega
  · exact Nat.le_refl _
  · have hstep := Nat.mul_le_mul_right den h
    rw [Nat.succ_mul] at hstep
    omega

/-! ## The nearest value of the format -/

/-- A value that the format holds, as long as it is in range. -/
def IsRepresentable (z : Int) : Prop := ulp z.natAbs ∣ z.natAbs

/-- The representable value that is nearest. -/
def nearest (z : Int) : Int :=
  if z < 0 then -(roundQuotient z.natAbs 1 : Int) else roundQuotient z.natAbs 1

theorem isRepresentable_neg {z : Int} : IsRepresentable (-z) ↔ IsRepresentable z := by
  rw [IsRepresentable, IsRepresentable, Int.natAbs_neg]

theorem roundQuotient_zero : roundQuotient 0 1 = 0 := by decide

theorem isRepresentable_nearest (z : Int) : IsRepresentable (nearest z) := by
  have h := ulp_dvd_roundQuotient z.natAbs 1
  rw [nearest]
  split
  · exact isRepresentable_neg.mpr h
  · exact h

theorem ulp_pos (m : Nat) : 0 < ulp m := one_shiftLeft_pos _

theorem roundQuotient_one (m : Nat) : roundQuotient m 1 = divRoundEven m (ulp m) * ulp m := by
  rw [roundQuotient, Nat.div_one, Nat.one_mul]

/-- A representable magnitude that is no multiple of the unit of another one is below
the power of two at which that unit begins. -/
theorem dvd_or_lt_of_representable {t : Nat} (ht : ulp t ∣ t) (m : Nat) :
    ulp m ∣ t ∨ t < 1 <<< m.log2 := by
  rcases Nat.lt_or_ge t.log2 m.log2 with h | h
  · exact .inr (Nat.lt_of_lt_of_le (lt_one_shiftLeft_log2 t) (one_shiftLeft_le h))
  · exact .inl (Nat.dvd_trans (one_shiftLeft_dvd (by omega)) ht)

theorem natAbs_sub_roundQuotient_le (m : Nat) {t : Nat} (ht : ulp t ∣ t) :
    ((m : Int) - roundQuotient m 1).natAbs ≤ ((m : Int) - t).natAbs := by
  have hmultiple : ∀ s, ulp m ∣ s →
      ((m : Int) - roundQuotient m 1).natAbs ≤ ((m : Int) - s).natAbs := by
    intro s hs
    obtain ⟨k, rfl⟩ := hs
    rw [roundQuotient_one, Nat.mul_comm (ulp m)]
    exact natAbs_sub_divRoundEven_le m k (ulp_pos m)
  rcases dvd_or_lt_of_representable ht m with h | h
  · exact hmultiple t h
  · by_cases hm : m = 0
    · rw [hm, roundQuotient_zero]
      omega
    · -- The power of two is between, and a multiple of the unit.
      have hpower := hmultiple (1 <<< m.log2) (one_shiftLeft_dvd (Nat.sub_le _ _))
      have hle := one_shiftLeft_log2_le hm
      omega

/-- No representable value is nearer than the one that rounding picks. -/
theorem natAbs_sub_nearest_le (z : Int) {t : Int} (ht : IsRepresentable t) :
    (z - nearest z).natAbs ≤ (z - t).natAbs := by
  have hzero := natAbs_sub_roundQuotient_le z.natAbs (t := 0) (Nat.dvd_zero _)
  have habs := natAbs_sub_roundQuotient_le z.natAbs ht
  rw [nearest]
  split
  · omega
  · omega

theorem two_mul_natAbs_sub_nearest_le (z : Int) :
    2 * (z - nearest z).natAbs ≤ ulp z.natAbs := by
  have h := two_mul_natAbs_sub_divRoundEven_le z.natAbs (ulp_pos z.natAbs)
  rw [← roundQuotient_one] at h
  rw [nearest]
  split
  · omega
  · omega

/-! ## What follows -/

theorem nearest_of_isRepresentable {z : Int} (hz : IsRepresentable z) : nearest z = z := by
  have h := natAbs_sub_nearest_le z hz
  omega

/-- Two numbers in an order are rounded to two numbers in that order. If they were not,
each of them would be nearer to what the other one is rounded to. -/
theorem nearest_mono {x y : Int} (h : x ≤ y) : nearest x ≤ nearest y := by
  rcases Int.lt_or_eq_of_le h with hlt | rfl
  · have hx := natAbs_sub_nearest_le x (isRepresentable_nearest y)
    have hy := natAbs_sub_nearest_le y (isRepresentable_nearest x)
    omega
  · exact Int.le_refl _

/-! ## Floats and integers -/

theorem isRepresentable_units (x : Binary64) : IsRepresentable x.units := by
  rw [units]
  split
  · exact isRepresentable_neg.mpr x.representable
  · exact x.representable

theorem isRepresentable_mul_one {n : Int} (h : n.natAbs ≤ 1 <<< 53) :
    IsRepresentable (n * one) := by
  rw [IsRepresentable, Int.natAbs_mul, Int.natAbs_natCast]
  exact ulp_mul_dvd 1074 h

theorem units_ofInt (n : Int) (h : n.natAbs ≤ 1 <<< 64) :
    (ofInt n h).units = nearest (n * one) := by
  have hone : (0 : Int) < one := Int.natCast_pos.mpr one_pos
  have hneg : n * one < 0 ↔ n < 0 := by
    rw [Int.mul_neg_iff]
    omega
  rw [units, ofInt, nearest, Int.natAbs_mul, Int.natAbs_natCast]
  simp only [decide_eq_true_eq, hneg]

/-- An integer of 64 bits is moved by half of `2 ^ 11` at most, the unit at `2 ^ 63`. -/
theorem natAbs_sub_nearest_mul_one_le {n : Int} (h : n.natAbs < 1 <<< 64) :
    (n * one - nearest (n * one)).natAbs ≤ 1 <<< 10 * one := by
  have hround := two_mul_natAbs_sub_nearest_le (n * one)
  rw [Int.natAbs_mul, Int.natAbs_natCast] at hround
  have hulp : ulp (n.natAbs * one) ≤ 1 <<< 11 * one := by
    rw [ulp, one, ← one_shiftLeft_add]
    refine one_shiftLeft_le ?_
    by_cases hzero : n.natAbs * 1 <<< 1074 = 0
    · rw [hzero]
      decide
    · have hbits : (n.natAbs * 1 <<< 1074).log2 < 64 + 1074 := by
        refine log2_lt_of_lt hzero ?_
        rw [one_shiftLeft_add]
        exact Nat.mul_lt_mul_of_pos_right h (one_shiftLeft_pos 1074)
      omega
  have htwice : 1 <<< 11 * one = 2 * (1 <<< 10 * one) := by
    rw [← Nat.mul_assoc]
    rfl
  omega

/-! ## Exact values -/

/-- The exact value. The unit is one part in `one`. -/
def value (x : Binary64) : ℚ := x.units / one

theorem one_cast_ne_zero : (one : ℚ) ≠ 0 := Nat.cast_ne_zero.mpr (Nat.ne_of_gt one_pos)

theorem units_div_le_iff (y z : Int) : (y : ℚ) / one ≤ z / one ↔ y ≤ z := by
  rw [div_le_div_iff_of_pos_right (Nat.cast_pos.mpr one_pos), Int.cast_le]

theorem abs_units_div_sub_le {y z : Int} {k : Nat} (h : (y - z).natAbs ≤ k * one) :
    |(y : ℚ) / one - z / one| ≤ k := by
  rw [← sub_div, abs_div, Nat.abs_cast, div_le_iff₀ (Nat.cast_pos.mpr one_pos), ← Int.cast_sub,
    ← Int.cast_abs, ← Nat.cast_natAbs, ← Nat.cast_mul]
  exact Nat.cast_le.mpr h

theorem units_div_inj (y z : Int) : (y : ℚ) / one = z / one ↔ y = z := by
  rw [div_left_inj' one_cast_ne_zero, Int.cast_inj]

theorem le_iff (x y : Binary64) : x.le y ↔ x.value ≤ y.value := by
  rw [le, decide_eq_true_eq, value, value, units_div_le_iff]

theorem beq_iff (x y : Binary64) : x == y ↔ x.value = y.value := by
  rw [value, value, units_div_inj]
  exact beq_iff_eq (a := x.units)

end Binary64

namespace Number

/-- The exact value. -/
def value : Number → ℚ
  | .int n _ _ => n
  | .float x => x.value

/-- The value after rounding, which is what is compared. -/
def rounded (a : Number) : ℚ := a.toBinary64.value

theorem value_eq_units_div (a : Number) : a.value = a.units / Binary64.one := by
  cases a with
  | int n low high =>
      rw [value, units, Int.cast_mul, Int.cast_natCast,
        mul_div_cancel_right₀ _ Binary64.one_cast_ne_zero]
  | float x => rfl

theorem value_le_iff {a b : Number} : a.value ≤ b.value ↔ a.units ≤ b.units := by
  rw [value_eq_units_div, value_eq_units_div, Binary64.units_div_le_iff]

theorem value_inj {a b : Number} : a.value = b.value ↔ a.units = b.units := by
  rw [value_eq_units_div, value_eq_units_div, Binary64.units_div_inj]

theorem units_toBinary64 (a : Number) : a.toBinary64.units = Binary64.nearest a.units := by
  cases a with
  | int n low high => exact Binary64.units_ofInt n (by omega)
  | float x => exact (Binary64.nearest_of_isRepresentable x.isRepresentable_units).symm

theorem rounded_eq_of_isRepresentable {a : Number} (h : Binary64.IsRepresentable a.units) :
    a.rounded = a.value := by
  rw [rounded, Binary64.value, units_toBinary64, Binary64.nearest_of_isRepresentable h,
    value_eq_units_div]

@[simp] theorem rounded_float (x : Binary64) : (Number.float x).rounded = x.value := rfl

theorem rounded_int {n : Int} {low high} (h : n.natAbs ≤ 2 ^ 53) :
    (Number.int n low high).rounded = n := by
  rw [rounded_eq_of_isRepresentable, value]
  exact Binary64.isRepresentable_mul_one (by rwa [Nat.one_shiftLeft])

theorem rounded_of_abs_le {a : Number} (h : |a.value| ≤ 2 ^ 53) : a.rounded = a.value := by
  cases a with
  | int n low high =>
      rw [value, ← Int.cast_abs, Int.abs_eq_natAbs] at h
      exact rounded_int (by exact_mod_cast h)
  | float x => rfl

theorem rounded_mono {a b : Number} (h : a.value ≤ b.value) : a.rounded ≤ b.rounded := by
  rw [rounded, rounded, Binary64.value, Binary64.value, Binary64.units_div_le_iff,
    units_toBinary64, units_toBinary64]
  exact Binary64.nearest_mono (value_le_iff.mp h)

/-- An order of rounded values is an order of the values, unless they have become one. -/
theorem rounded_le_iff {a b : Number} :
    a.rounded ≤ b.rounded ↔ a.value ≤ b.value ∨ a.rounded = b.rounded := by
  constructor
  · intro h
    rcases le_total a.value b.value with hle | hge
    · exact .inl hle
    · exact .inr (le_antisymm h (rounded_mono hge))
  · rintro (h | h)
    · exact rounded_mono h
    · exact h.le

theorem rounded_eq_of_value_eq {a b : Number} (h : a.value = b.value) : a.rounded = b.rounded :=
  le_antisymm (rounded_mono h.le) (rounded_mono h.ge)

/-- Nothing is rounded to a float below `2 ^ 53` but a number of its value. -/
theorem rounded_of_abs_rounded_lt {a : Number} (h : |a.rounded| < 2 ^ 53) :
    a.rounded = a.value := by
  obtain ⟨hlow, hhigh⟩ := abs_lt.mp h
  refine rounded_of_abs_le
    (abs_le.mpr ⟨le_of_not_gt fun hvalue => ?_, le_of_not_gt fun hvalue => ?_⟩)
  · have hmono := rounded_mono (a := a) (b := .int (-2 ^ 53) (by decide) (by decide))
      (by rw [value]; exact_mod_cast hvalue.le)
    rw [rounded_int (by decide)] at hmono
    exact absurd (hlow.trans_le hmono) (by exact_mod_cast lt_irrefl _)
  · have hmono := rounded_mono (b := a) (a := .int (2 ^ 53) (by decide) (by decide))
      (by rw [value]; exact_mod_cast hvalue.le)
    rw [rounded_int (by decide)] at hmono
    exact absurd (hmono.trans_lt hhigh) (by exact_mod_cast lt_irrefl _)

/-- A number below `2 ^ 53` is told from all others. -/
theorem rounded_inj {a b : Number} (h : |a.value| < 2 ^ 53) :
    a.rounded = b.rounded ↔ a.value = b.value := by
  have ha := rounded_of_abs_le h.le
  constructor
  · intro heq
    have hb := rounded_of_abs_rounded_lt (a := b) (by rw [← heq, ha]; exact h)
    rw [← ha, heq, hb]
  · exact rounded_eq_of_value_eq

theorem rounded_le_rounded_iff {a b : Number} (h : |a.value| < 2 ^ 53 ∨ |b.value| < 2 ^ 53) :
    a.rounded ≤ b.rounded ↔ a.value ≤ b.value := by
  rw [rounded_le_iff, or_iff_left_iff_imp]
  intro heq
  rcases h with h | h
  · exact ((rounded_inj h).mp heq).le
  · exact ((rounded_inj h).mp heq.symm).ge

/-- A float stays as it is, and an integer may move by `2 ^ 10`. -/
theorem abs_value_sub_rounded_le (a : Number) : |a.value - a.rounded| ≤ 2 ^ 10 := by
  cases a with
  | int n low high =>
      rw [value_eq_units_div, rounded, Binary64.value, units_toBinary64]
      exact_mod_cast Binary64.abs_units_div_sub_le
        (Binary64.natAbs_sub_nearest_mul_one_le (n := n) (by omega))
  | float x =>
      rw [rounded_float, value, sub_self, abs_zero]
      exact pow_nonneg zero_le_two 10

theorem abs_value_sub_value_le {a b : Number} (h : a.rounded = b.rounded) :
    |a.value - b.value| ≤ 2 ^ 11 := by
  calc |a.value - b.value| = |(a.value - a.rounded) - (b.value - b.rounded)| := by
        rw [h, sub_sub_sub_cancel_right]
    _ ≤ |a.value - a.rounded| + |b.value - b.rounded| := abs_sub _ _
    _ ≤ 2 ^ 10 + 2 ^ 10 := add_le_add (abs_value_sub_rounded_le a) (abs_value_sub_rounded_le b)
    _ = 2 ^ 11 := by rw [← mul_two, ← pow_succ]

end Number

end ConstraintTree

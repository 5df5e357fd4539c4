/-!
# Binary floating point with 53 significant bits

A finite number of this format is, apart from its sign, a whole multiple of
the smallest positive one, which is `2 ^ -1074`. So a magnitude is kept as the
natural number of those units, and everything else is exact arithmetic on
natural numbers: a magnitude is representable when it is a multiple of its unit
in the last place, rounding picks the nearest such magnitude and the even one
of two, and comparing two numbers compares two integers.

The two zeros are different numbers that compare equal.
-/

namespace ConstraintTree

/-- A power of ten. -/
def tenPow (k : Nat) : Nat := Nat.pow 10 k

namespace Binary64

/-! ## Powers of two

A power of two is written as a one that is shifted. -/

theorem one_shiftLeft_pos (k : Nat) : 0 < 1 <<< k := by
  rw [Nat.one_shiftLeft]
  exact Nat.two_pow_pos k

theorem one_shiftLeft_add (k l : Nat) : 1 <<< (k + l) = (1 <<< k) * (1 <<< l) := by
  simp only [Nat.one_shiftLeft, Nat.pow_add]

theorem one_shiftLeft_dvd {k l : Nat} (h : k ≤ l) : 1 <<< k ∣ 1 <<< l := by
  obtain ⟨d, rfl⟩ := Nat.exists_eq_add_of_le h
  rw [one_shiftLeft_add]
  exact Nat.dvd_mul_right _ _

theorem one_shiftLeft_le {k l : Nat} (h : k ≤ l) : 1 <<< k ≤ 1 <<< l :=
  Nat.le_of_dvd (one_shiftLeft_pos l) (one_shiftLeft_dvd h)

theorem lt_one_shiftLeft_log2 (m : Nat) : m < 1 <<< (m.log2 + 1) := by
  rw [Nat.one_shiftLeft]
  exact Nat.lt_log2_self

theorem one_shiftLeft_log2_le {m : Nat} (hm : m ≠ 0) : 1 <<< m.log2 ≤ m := by
  rw [Nat.one_shiftLeft]
  exact Nat.log2_self_le hm

theorem log2_lt_of_lt {m k : Nat} (hm : m ≠ 0) (h : m < 1 <<< k) : m.log2 < k := by
  rw [Nat.one_shiftLeft] at h
  exact (Nat.log2_lt hm).2 h

theorem log2_one_shiftLeft (k : Nat) : (1 <<< k).log2 = k := by
  rw [Nat.one_shiftLeft]
  exact Nat.log2_two_pow

/-! ## Rounding -/

/-- The unit in the last place at magnitude `m`: one up to `2 ^ 53`, and from
there on the power of two that leaves 53 significant bits. -/
def ulp (m : Nat) : Nat := 1 <<< (m.log2 - 52)

/-- The first magnitude past the largest finite number. -/
def limit : Nat := 1 <<< 2098

/-- The units in one. -/
def one : Nat := 1 <<< 1074

theorem limit_pos : 0 < limit := one_shiftLeft_pos 2098

theorem one_pos : 0 < one := one_shiftLeft_pos 1074

/-- The integer nearest to `num / den`, the even one of two. -/
def divRoundEven (num den : Nat) : Nat :=
  let q := num / den
  let twice := 2 * (num % den)
  if twice < den ∨ (twice = den ∧ q % 2 = 0) then q else q + 1

/-- The representable magnitude nearest to `num / den`, the even one of two. -/
def roundQuotient (num den : Nat) : Nat :=
  let unit := ulp (num / den)
  divRoundEven num (den * unit) * unit

theorem divRoundEven_le (num den : Nat) : divRoundEven num den ≤ num / den + 1 := by
  simp only [divRoundEven]
  split <;> omega

/-- What is cut off at the unit in the last place has at most 53 bits. -/
theorem div_ulp_lt (m : Nat) : m / ulp m < 1 <<< 53 := by
  rw [ulp, Nat.div_lt_iff_lt_mul (one_shiftLeft_pos _), ← one_shiftLeft_add]
  exact Nat.lt_of_lt_of_le (lt_one_shiftLeft_log2 m) (one_shiftLeft_le (by omega))

theorem ulp_le (m : Nat) : ulp m ≤ m + 1 := by
  by_cases hm : m = 0
  · simp [ulp, hm]
  · have hself := one_shiftLeft_log2_le hm
    have hle : ulp m ≤ 1 <<< m.log2 := one_shiftLeft_le (Nat.sub_le _ _)
    exact Nat.le_succ_of_le (Nat.le_trans hle hself)

/-- Up to 53 bits times a power of two is representable. -/
theorem ulp_mul_dvd {n : Nat} (k : Nat) (hn : n ≤ 1 <<< 53) :
    ulp (n * 1 <<< k) ∣ n * 1 <<< k := by
  by_cases hzero : n * 1 <<< k = 0
  · rw [hzero]
    exact Nat.dvd_zero _
  · rcases Nat.lt_or_eq_of_le hn with hlt | heq
    · have hbits : (n * 1 <<< k).log2 < 53 + k := by
        apply log2_lt_of_lt hzero
        rw [one_shiftLeft_add]
        exact Nat.mul_lt_mul_of_pos_right hlt (one_shiftLeft_pos k)
      exact Nat.dvd_trans (one_shiftLeft_dvd (by omega)) (Nat.dvd_mul_left _ _)
    · rw [heq, ← one_shiftLeft_add, ulp, log2_one_shiftLeft]
      exact one_shiftLeft_dvd (Nat.sub_le _ _)

theorem ulp_dvd_roundQuotient (num den : Nat) :
    ulp (roundQuotient num den) ∣ roundQuotient num den := by
  apply ulp_mul_dvd
  have hround := divRoundEven_le num (den * ulp (num / den))
  have hcut := div_ulp_lt (num / den)
  rw [Nat.div_div_eq_div_mul] at hcut
  exact Nat.le_trans hround hcut

/-- Rounding never doubles a magnitude of at least one unit. -/
theorem roundQuotient_le (num den : Nat) :
    roundQuotient num den ≤ 2 * (num / den) + 1 := by
  have hround := divRoundEven_le num (den * ulp (num / den))
  rw [← Nat.div_div_eq_div_mul] at hround
  have hcut : num / den / ulp (num / den) * ulp (num / den) ≤ num / den :=
    Nat.div_mul_le_self _ _
  have hunit := ulp_le (num / den)
  have hmul := Nat.mul_le_mul_right (ulp (num / den)) hround
  simp only [roundQuotient]
  rw [Nat.add_mul] at hmul
  omega

end Binary64

/-- A finite binary floating-point number with 53 significant bits. -/
structure Binary64 where
  negative : Bool
  /-- The absolute value, counted in units of `2 ^ -1074`. -/
  magnitude : Nat
  representable : Binary64.ulp magnitude ∣ magnitude
  inRange : magnitude < Binary64.limit

namespace Binary64

/-- The exact value, counted in units of `2 ^ -1074`. -/
def units (x : Binary64) : Int :=
  if x.negative then -(x.magnitude : Int) else x.magnitude

/-- Equality of values, under which the two zeros are equal. -/
instance : BEq Binary64 := ⟨fun x y => x.units == y.units⟩

/-- Order by value. Both zeros are alike. -/
def le (x y : Binary64) : Bool := decide (x.units ≤ y.units)

/-- One of the two zeros. -/
def zero (negative : Bool) : Binary64 :=
  ⟨negative, 0, Nat.dvd_zero _, limit_pos⟩

instance : Inhabited Binary64 := ⟨zero false⟩

/-- Whether a float is one of the two zeros. -/
def isZero (x : Binary64) : Bool := x.magnitude == 0

/-- The float with the other sign. -/
def neg (x : Binary64) : Binary64 := { x with negative := !x.negative }

/-- The number nearest to `num / den` units, with a sign; there is none where
the rounded magnitude is out of range. -/
def ofUnits? (negative : Bool) (num den : Nat) : Option Binary64 :=
  if h : roundQuotient num den < limit then
    some ⟨negative, roundQuotient num den, ulp_dvd_roundQuotient num den, h⟩
  else
    none

/-- The number nearest to the non-negative rational `num / den`. -/
def ofRatio? (num den : Nat) : Option Binary64 := ofUnits? false (num * one) den

/-- The float nearest to a power of ten. -/
def powTen? (k : Nat) : Option Binary64 := ofRatio? (tenPow k) 1

/-- The float nearest to a product. There is none if that is too large. -/
def mul? (x y : Binary64) : Option Binary64 :=
  ofUnits? (x.negative != y.negative) (x.magnitude * y.magnitude) one

/-- The rounded quotient of two numbers, the second of them not zero. -/
def div? (x y : Binary64) : Option Binary64 :=
  ofUnits? (x.negative != y.negative) (x.magnitude * one) y.magnitude

/-- An integer of 64 bits is far below the limit of the format. -/
theorem roundQuotient_ofNat_lt {n : Nat} (h : n ≤ 1 <<< 64) :
    roundQuotient (n * one) 1 < limit := by
  have hround := roundQuotient_le (n * one) 1
  rw [Nat.div_one] at hround
  have hscale : n * one ≤ 1 <<< 64 * one := Nat.mul_le_mul_right _ h
  have hpos : 0 < 1 <<< 64 * one := Nat.mul_pos (one_shiftLeft_pos 64) one_pos
  have hlimit : 4 * (1 <<< 64 * one) ≤ limit := by
    rw [one, ← one_shiftLeft_add, limit]
    exact Nat.le_trans (Nat.le_of_eq (one_shiftLeft_add 2 _).symm) (one_shiftLeft_le (by decide))
  generalize 1 <<< 64 * one = a at *
  omega

/-- The number nearest to an integer of at most 64 bits. -/
def ofInt (n : Int) (h : n.natAbs ≤ 1 <<< 64) : Binary64 where
  negative := decide (n < 0)
  magnitude := roundQuotient (n.natAbs * one) 1
  representable := ulp_dvd_roundQuotient _ _
  inRange := roundQuotient_ofNat_lt h

/-- The number nearest to a word. -/
def ofWord (n : UInt64) : Binary64 :=
  ofInt n.toNat (by
    have hn := n.toNat_lt
    rw [Int.natAbs_natCast, Nat.one_shiftLeft]
    omega)

/-- The interchange encoding in 64 bits: sign, biased exponent and the bits
after the leading one. -/
def bits (x : Binary64) : Nat :=
  let shift := x.magnitude.log2 - 52
  (if x.negative then 1 <<< 63 else 0) + shift <<< 52 + x.magnitude >>> shift

end Binary64

end ConstraintTree

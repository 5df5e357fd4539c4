import ConstraintTree.Proofs.Rounding
import ConstraintTree.Registry.Builtin

/-!
# Comparing numbers

The predicates on numbers compare floats, and an integer becomes a float by
rounding. So what they compare is the rounded value of a number, which is the
value itself unless the number is an integer of more than 53 bits.

As the rounded values are ordered, the predicates agree with one another
(`compare_rounded`), and as rounding keeps the order, none of them refuses what is
true of the values. The converse fails. Beyond `2 ^ 53` two integers may be
rounded to one float, and the predicates take them for equal
(`accepts_iff_rounded`). Such integers are near to each other, but they are not
the same.
-/

namespace ConstraintTree

/-- The arguments of a call on two values that are both present. -/
def Arguments.pair (v w : Json) : Arguments := ⟨[some v, some w]⟩

namespace Number

/-- The integer zero. -/
def zero : Number := .int 0 (by decide) (by decide)

/-- The float zero with a sign. -/
def negativeZero : Number := .float (.zero true)

/-- The largest integer. -/
def allOnes : Number := .int 0xFFFFFFFFFFFFFFFF (by decide) (by decide)

/-- The first power of two that is no integer of a document. -/
def twoPow64 : Number := .float ⟨false, 1 <<< 1138, by decide +kernel, by decide +kernel⟩

/-- From here on not every integer is a float. -/
def twoPow53 : Number := .int 0x20000000000000 (by decide) (by decide)

/-- The first integer that no float has the value of. -/
def twoPow53Succ : Number := .int 0x20000000000001 (by decide) (by decide)

end Number

namespace Builtin

/-! ## Each predicate on numbers -/

theorem oneOf_pair (v : Json) (options : List Json) :
    oneOf (.pair v (.arr options)) = options.any v.equalValue := rfl

theorem minimum_num (a b : Number) :
    minimum (.pair (.num a) (.num b)) ↔ b.rounded ≤ a.rounded :=
  Binary64.le_iff _ _

theorem maximum_num (a b : Number) :
    maximum (.pair (.num a) (.num b)) ↔ a.rounded ≤ b.rounded :=
  Binary64.le_iff _ _

theorem equals_num (a b : Number) :
    equals (.pair (.num a) (.num b)) ↔ a.rounded = b.rounded :=
  Binary64.beq_iff _ _

theorem oneOf_num (a : Number) (options : List Number) :
    oneOf (.pair (.num a) (.arr (options.map .num))) ↔ ∃ b ∈ options, a.rounded = b.rounded := by
  rw [oneOf_pair, List.any_map, List.any_eq_true]
  exact exists_congr fun b => and_congr_right fun _ => equals_num a b

/-! ## All of them together -/

/-- The predicates on numbers are one order of all numbers, whatever their kinds. They say
yes of every two numbers of which it is true. -/
theorem compare_rounded (a b c : Number) :
    minimum (.pair (.num a) (.num b)) = maximum (.pair (.num b) (.num a)) ∧
    (minimum (.pair (.num a) (.num b)) ∨ maximum (.pair (.num a) (.num b))) ∧
    (minimum (.pair (.num a) (.num b)) ∧ maximum (.pair (.num a) (.num b)) ↔
      equals (.pair (.num a) (.num b))) ∧
    (minimum (.pair (.num a) (.num b)) → minimum (.pair (.num b) (.num c)) →
      minimum (.pair (.num a) (.num c))) ∧
    (b.value ≤ a.value → minimum (.pair (.num a) (.num b))) ∧
    (a.value = b.value → equals (.pair (.num a) (.num b))) := by
  simp only [minimum_num, maximum_num, equals_num]
  refine ⟨rfl, le_total _ _, ?_, fun hab hbc => hbc.trans hab, Number.rounded_mono,
    Number.rounded_eq_of_value_eq⟩
  rw [and_comm]
  exact le_antisymm_iff.symm

/-- An integer that is rounded up, to the float above it, and the two zeros. -/
theorem compare_rounded_allOnes :
    (Number.allOnes.value ≤ Number.twoPow64.value ∧
      minimum (.pair (.num .twoPow64) (.num .allOnes))) ∧
    (minimum (.pair (.num .allOnes) (.num .twoPow64)) ∧
      minimum (.pair (.num .twoPow64) (.num .negativeZero)) ∧
      minimum (.pair (.num .allOnes) (.num .negativeZero))) ∧
    Number.zero.value = Number.negativeZero.value ∧
      equals (.pair (.num .zero) (.num .negativeZero)) := by
  have hle : Number.allOnes.value ≤ Number.twoPow64.value :=
    Number.value_le_iff.mpr (by decide +kernel)
  have hzero : Number.zero.value = Number.negativeZero.value :=
    Number.value_inj.mpr (by decide +kernel)
  have hup : minimum (.pair (.num .allOnes) (.num .twoPow64)) := by decide +kernel
  have hdown : minimum (.pair (.num .twoPow64) (.num .negativeZero)) := by decide +kernel
  obtain ⟨-, -, -, htrans, -, -⟩ := compare_rounded .allOnes .twoPow64 .negativeZero
  obtain ⟨-, -, -, -, hminimum, -⟩ := compare_rounded .twoPow64 .allOnes .zero
  obtain ⟨-, -, -, -, -, hequals⟩ := compare_rounded .zero .negativeZero .zero
  exact ⟨⟨hle, hminimum hle⟩, ⟨hup, hdown, htrans hup hdown⟩, hzero, hequals hzero⟩

/-! ## Where they go wrong -/

/-- The predicates on numbers say yes of what is true, and of two numbers that are rounded to
one float. Such numbers are `2 ^ 11` apart at most, and if one of them is below `2 ^ 53`,
they have the same value. -/
theorem accepts_iff_rounded (a b : Number) (options : List Number) :
    (equals (.pair (.num a) (.num b)) ↔ a.rounded = b.rounded) ∧
    notEquals (.pair (.num a) (.num b)) = !equals (.pair (.num a) (.num b)) ∧
    (minimum (.pair (.num a) (.num b)) ↔ b.value ≤ a.value ∨ a.rounded = b.rounded) ∧
    (maximum (.pair (.num a) (.num b)) ↔ a.value ≤ b.value ∨ a.rounded = b.rounded) ∧
    (oneOf (.pair (.num a) (.arr (options.map .num))) ↔
      ∃ c ∈ options, a.rounded = c.rounded) ∧
    (|a.value| < 2 ^ 53 → (a.rounded = b.rounded ↔ a.value = b.value)) ∧
    (a.rounded = b.rounded → |a.value - b.value| ≤ 2 ^ 11) := by
  refine ⟨equals_num a b, rfl, ?_, ?_, oneOf_num a options, Number.rounded_inj,
    Number.abs_value_sub_value_le⟩
  · rw [minimum_num, Number.rounded_le_iff]
    exact or_congr_right eq_comm
  · rw [maximum_num, Number.rounded_le_iff]

/-- Small and large, with the float between two integers. -/
theorem accepts_iff_rounded_twoPow53 :
    (|Number.zero.value| < 2 ^ 53 ∧
      (Number.zero.rounded = Number.negativeZero.rounded ↔
        Number.zero.value = Number.negativeZero.value)) ∧
    (Number.twoPow53Succ.rounded = Number.twoPow53.rounded ∧
      |Number.twoPow53Succ.value - Number.twoPow53.value| ≤ 2 ^ 11) ∧
    (oneOf (.pair (.num .twoPow53Succ) (.arr ([.zero, .twoPow53].map .num))) ↔
      ∃ c ∈ [Number.zero, .twoPow53], Number.twoPow53Succ.rounded = c.rounded) := by
  have hsmall : |Number.zero.value| < 2 ^ 53 := by
    rw [Number.zero, Number.value, Int.cast_zero, abs_zero]
    exact pow_pos zero_lt_two 53
  have hone : Number.twoPow53Succ.rounded = Number.twoPow53.rounded :=
    (equals_num _ _).mp (by decide +kernel)
  obtain ⟨-, -, -, -, -, hinj, -⟩ := accepts_iff_rounded .zero .negativeZero []
  obtain ⟨-, -, -, -, honeOf, -, happrox⟩ :=
    accepts_iff_rounded .twoPow53Succ .twoPow53 [.zero, .twoPow53]
  exact ⟨⟨hsmall, hinj hsmall⟩, ⟨hone, happrox hone⟩, honeOf⟩

/-- Where floats begin to miss integers, two integers pass for equal, and the smaller one
for not less. -/
theorem equals_twoPow53Succ :
    Number.twoPow53.value < Number.twoPow53Succ.value ∧
    equals (.pair (.num .twoPow53Succ) (.num .twoPow53)) ∧
    notEquals (.pair (.num .twoPow53Succ) (.num .twoPow53)) = false ∧
    minimum (.pair (.num .twoPow53) (.num .twoPow53Succ)) ∧
    maximum (.pair (.num .twoPow53Succ) (.num .twoPow53)) ∧
    oneOf (.pair (.num .twoPow53Succ) (.arr [.num .twoPow53])) := by
  refine ⟨Int.cast_lt.mpr (by decide), ?_⟩
  decide +kernel

end Builtin

end ConstraintTree

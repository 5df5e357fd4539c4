import ConstraintTree.Number.Binary64

/-!
# The shortest decimal that reads back

A decimal `d · 10 ^ k` reads back as a binary number when the number nearest to
it is that one. Among the decimals that read back, the text of a number uses
one with the fewest digits and, of those, the one nearest to the exact value,
the even one of two.

The search is by exact arithmetic: on the grid of multiples of `10 ^ k` only the
two neighbours of the value can be nearest to it, and seventeen digits always
read back.
-/

namespace ConstraintTree

/-- The decimal `digits · 10 ^ exponent`. -/
structure Decimal where
  digits : Nat
  exponent : Int

namespace Decimal

/-- The value of a decimal as a fraction. -/
def ratio (d : Decimal) : Nat × Nat :=
  match d.exponent with
  | .ofNat k => (d.digits * tenPow k, 1)
  | .negSucc k => (d.digits, tenPow (k + 1))

/-- The float nearest to a decimal, in units. -/
def magnitude (d : Decimal) : Nat :=
  Binary64.roundQuotient (d.ratio.1 * Binary64.one) d.ratio.2

/-- The same decimal without a last digit zero, as often as `fuel` allows. -/
def dropZeros (d : Decimal) : Nat → Decimal
  | 0 => d
  | fuel + 1 =>
    if d.digits ≠ 0 ∧ d.digits % 10 = 0 then
      dropZeros ⟨d.digits / 10, d.exponent + 1⟩ fuel
    else d

/-- The exponent of the first digit: `digits` has its point after that digit. -/
def scientificExponent (d : Decimal) : Int :=
  d.exponent + ((Nat.repr d.digits).length : Int) - 1

end Decimal

namespace Binary64

/-- The exponent of ten of the first decimal digit of a positive magnitude.
`10 ^ 324` times the smallest magnitude is more than one, so the digits before
the point of that multiple can be counted. -/
def leadingExponent (m : Nat) : Int :=
  ((Nat.repr (m * tenPow 324 / one)).length : Int) - 325

/-- The magnitude `m` divided by `10 ^ k`, as a quotient. -/
def gridQuotient (m : Nat) : Int → Nat × Nat
  | .ofNat k => (m, one * tenPow k)
  | .negSucc k => (m * tenPow (k + 1), one)

/-- The nearer of the two neighbours of `m` on the grid of `10 ^ k` that reads
back, if one does. -/
def readsBackOn? (m : Nat) (k : Int) : Option Decimal :=
  let (num, den) := gridQuotient m k
  let below : Decimal := ⟨num / den, k⟩
  let above : Decimal := ⟨num / den + 1, k⟩
  let nearest : Decimal := ⟨divRoundEven num den, k⟩
  if nearest.magnitude = m then some nearest
  else if below.magnitude = m then some below
  else if above.magnitude = m then some above
  else none

/-- The shortest decimal that reads back as the magnitude `m`, zero as `0`. -/
def shortestOf (m : Nat) : Decimal :=
  if m = 0 then ⟨0, 0⟩
  else
    let lead := leadingExponent m
    match (List.range 17).findSome? (fun n : Nat => readsBackOn? m (lead - n)) with
    | some d => d.dropZeros 17
    | none => ⟨0, 0⟩

/-- The shortest decimal that reads back as the absolute value of a number. -/
def shortest (x : Binary64) : Decimal := shortestOf x.magnitude

end Binary64

end ConstraintTree

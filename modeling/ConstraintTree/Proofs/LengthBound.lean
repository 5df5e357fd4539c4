import ConstraintTree.Proofs.Comparison

/-!
# Bounds on lengths

A length and its bound are compared as floats, and the bound may be any number: an
integer too large to be a float, a fraction, or less than nothing. Still the
answer is the one that the exact values give (`lengthBound_iff`).

That is because a length is a small integer, and nothing else is rounded to it
(`Number.rounded_inj`). As rounding keeps the order, a bound on the one side of a
length stays there.
-/

namespace ConstraintTree

/-- How many characters a string has, or how many items an array. Nothing else has a
length. -/
inductive Json.HasLength : Json → Nat → Prop where
  | string (s : String) : HasLength (.str s) s.toList.length
  | array (items : List Json) : HasLength (.arr items) items.length

theorem Json.HasLength.length?_eq {v : Json} {n : Nat} (h : v.HasLength n) :
    v.length? = some (.ofNat n) := by
  cases h with
  | string s => rw [length?, String.length_toList]
  | array items => rfl

theorem Json.length?_eq_none {v : Json} (h : ∀ n, ¬ v.HasLength n) : v.length? = none := by
  cases v with
  | str s => exact absurd (.string s) (h _)
  | arr items => exact absurd (.array items) (h _)
  | _ => rfl

theorem Binary64.ofWord_ofNat {n : Nat} (h : n < 2 ^ 53) :
    ofWord (.ofNat n) = ofInt n (by rw [Int.natAbs_natCast, Nat.one_shiftLeft]; omega) := by
  have hn : (UInt64.ofNat n).toNat = n := UInt64.toNat_ofNat_of_lt' (by rw [UInt64.size]; omega)
  simp only [ofWord, hn]

/-- A bound between two lengths. -/
def Number.twoAndHalf : Number :=
  .float ⟨false, 5 <<< 1073, by decide +kernel, by decide +kernel⟩

namespace Builtin

/-- A length is compared as the number that it is. -/
theorem compareLength_eq (cmp : Binary64 → Binary64 → Bool) {args : Arguments} {v : Json} {n : Nat}
    {b : Number} (hv : args.get? 0 = some v) (hn : v.HasLength n) (hsmall : n < 2 ^ 53)
    (hb : args.get? 1 = some (.num b)) :
    ∃ length : Number, length.value = n ∧ |length.value| < 2 ^ 53 ∧
      compareLength cmp args = cmp length.toBinary64 b.toBinary64 := by
  have hvalue : ((n : Int) : ℚ) = n := Int.cast_natCast n
  refine ⟨.int n (by omega) (by omega), hvalue, ?_, ?_⟩
  · rw [Number.value, hvalue, Nat.abs_cast]
    exact_mod_cast hsmall
  · rw [compareLength, Arguments.number?, hv, hb, Option.bind_some, Option.bind_some,
      hn.length?_eq, Number.toBinary64, ← Binary64.ofWord_ofNat hsmall]
    rfl

theorem compareLength_of_no_length (cmp : Binary64 → Binary64 → Bool) {args : Arguments}
    (h : ∀ v n, args.get? 0 = some v → ¬ v.HasLength n) : compareLength cmp args = false := by
  have hnone : (args.get? 0).bind Json.length? = none := by
    rw [Option.bind_eq_none_iff]
    exact fun v hv => Json.length?_eq_none fun n => h v n hv
  rw [compareLength, hnone]

theorem compareLength_of_no_bound (cmp : Binary64 → Binary64 → Bool) {args : Arguments}
    (h : ∀ b, args.get? 1 ≠ some (.num b)) : compareLength cmp args = false := by
  have hnone : args.number? 1 = none := by
    rw [Arguments.number?, Option.map_eq_none_iff, Option.bind_eq_none_iff]
    intro v hv
    cases v with
    | num b => exact absurd hv (h b)
    | _ => rfl
  rw [compareLength, hnone]
  split
  · next heq => cases heq
  · rfl

/-- A length is compared with the exact value of its bound, whatever number that is. So at
least one of the two predicates is true, and both are if the bound is the length. Where
there is no length, or no number to compare it with, both are false. -/
theorem lengthBound_iff (args : Arguments) :
    (∀ v n b, args.get? 0 = some v → v.HasLength n → n < 2 ^ 53 → args.get? 1 = some (.num b) →
      (lengthAtLeast args ↔ b.value ≤ n) ∧
      (lengthAtMost args ↔ n ≤ b.value) ∧
      (lengthAtLeast args ∨ lengthAtMost args) ∧
      (lengthAtLeast args ∧ lengthAtMost args ↔ b.value = n)) ∧
    ((∀ v n, args.get? 0 = some v → ¬ v.HasLength n) →
      lengthAtLeast args = false ∧ lengthAtMost args = false) ∧
    ((∀ b, args.get? 1 ≠ some (.num b)) →
      lengthAtLeast args = false ∧ lengthAtMost args = false) := by
  refine ⟨fun v n b hv hn hsmall hb => ?_, fun h => ?_, fun h => ?_⟩
  · have hleast : lengthAtLeast args ↔ b.value ≤ n := by
      obtain ⟨length, hvalue, habs, heq⟩ := compareLength_eq (fun l b => b.le l) hv hn hsmall hb
      rw [lengthAtLeast, heq, Binary64.le_iff, ← hvalue]
      exact Number.rounded_le_rounded_iff (.inr habs)
    have hmost : lengthAtMost args ↔ n ≤ b.value := by
      obtain ⟨length, hvalue, habs, heq⟩ := compareLength_eq (fun l b => l.le b) hv hn hsmall hb
      rw [lengthAtMost, heq, Binary64.le_iff, ← hvalue]
      exact Number.rounded_le_rounded_iff (.inl habs)
    refine ⟨hleast, hmost, ?_, ?_⟩
    · rw [hleast, hmost]
      exact le_total _ _
    · rw [hleast, hmost]
      exact le_antisymm_iff.symm
  · exact ⟨compareLength_of_no_length _ h, compareLength_of_no_length _ h⟩
  · exact ⟨compareLength_of_no_bound _ h, compareLength_of_no_bound _ h⟩

/-- Three characters of five bytes between two bounds, no value, and no bound. -/
theorem lengthBound_iff_accented :
    (Json.HasLength (.str "héé") 3 ∧ 3 < 2 ^ 53 ∧
      (lengthAtLeast (.pair (.str "héé") (.num .twoAndHalf)) ↔
        Number.twoAndHalf.value ≤ (3 : ℕ)) ∧
      (lengthAtMost (.pair (.str "héé") (.num .twoAndHalf)) ↔
        (3 : ℕ) ≤ Number.twoAndHalf.value) ∧
      (lengthAtLeast (.pair (.str "héé") (.num .twoPow53Succ)) ∨
        lengthAtMost (.pair (.str "héé") (.num .twoPow53Succ)))) ∧
    lengthAtLeast (.pair (.str "héé") (.num .twoAndHalf)) ∧
    (lengthAtLeast ⟨[none, some (.num .zero)]⟩ = false ∧
      lengthAtMost ⟨[none, some (.num .zero)]⟩ = false) ∧
    lengthAtLeast ⟨[some (.arr [])]⟩ = false ∧ lengthAtMost ⟨[some (.arr [])]⟩ = false := by
  have hlength : Json.HasLength (.str "héé") 3 := .string "héé"
  have hsmall : 3 < 2 ^ 53 := by decide
  obtain ⟨hleast, hmost, -, -⟩ :=
    (lengthBound_iff (.pair (.str "héé") (.num .twoAndHalf))).1 _ 3 _ rfl hlength hsmall rfl
  obtain ⟨-, -, htotal, -⟩ :=
    (lengthBound_iff (.pair (.str "héé") (.num .twoPow53Succ))).1 _ 3 _ rfl hlength hsmall rfl
  have hmissing := (lengthBound_iff ⟨[none, some (.num .zero)]⟩).2.1 (fun _ _ h => nomatch h)
  have hunbounded := (lengthBound_iff ⟨[some (.arr [])]⟩).2.2 (fun _ h => nomatch h)
  exact ⟨⟨hlength, hsmall, hleast, hmost, htotal⟩, by decide +kernel, hmissing, hunbounded⟩

end Builtin

end ConstraintTree

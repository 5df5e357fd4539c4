import ConstraintTree.Path

/-!
# Decimals

The item of an array is named by digits, which are first tested and then read one by
one, up to 64 bits. What passes the test is a decimal in the only way to write a number
down: at least one digit, and no zero in front of others. Reading such digits and
writing the number gives them back (`IsDecimal.toDigits_ofDigitChars`), and giving up as
soon as the number is too large loses nothing (`readFitting?_eq_some_iff`). Therefore a
segment is an index exactly if it is the decimal of a number that fits.
-/

namespace ConstraintTree

namespace Path

/-- At least one digit, and no zero in front of others. -/
structure IsDecimal (cs : List Char) : Prop where
  ne_nil : cs ≠ []
  isDigit : ∀ c ∈ cs, c.isDigit
  eq_zero : cs.head? = some '0' → cs = ['0']

theorem le_ofDigitChars (cs : List Char) (n : Nat) : n ≤ Nat.ofDigitChars 10 cs n := by
  rw [Nat.ofDigitChars_eq_ofDigitChars_zero]
  have hpow : 1 ≤ 10 ^ cs.length := Nat.one_le_pow _ _ (by decide)
  calc
    n ≤ 10 ^ cs.length * n := Nat.le_mul_of_pos_left n hpow
    _ ≤ _ := Nat.le_add_right _ _

/-- Giving up early loses nothing, since more digits never make a number smaller. -/
theorem readFitting?_eq_some_iff {cs : List Char} {n i : Nat} (hn : n < 0x10000000000000000) :
    readFitting? n cs = some i ↔ Nat.ofDigitChars 10 cs n = i ∧ i < 0x10000000000000000 := by
  induction cs generalizing n with
  | nil =>
      rw [readFitting?, Nat.ofDigitChars_nil, Option.some_inj]
      exact ⟨fun h => ⟨h, h ▸ hn⟩, And.left⟩
  | cons c cs ih =>
      rw [readFitting?, Nat.ofDigitChars_cons]
      split
      · next hm => exact ih hm
      · next hm =>
          have hle := le_ofDigitChars cs (10 * n + (c.toNat - '0'.toNat))
          refine ⟨nofun, fun ⟨hi, hlt⟩ => absurd ?_ hm⟩
          rw [hi] at hle
          exact Nat.lt_of_le_of_lt hle hlt

theorem digitChar_of_isDigit {c : Char} (h : c.isDigit) :
    c.toNat - '0'.toNat < 10 ∧ Nat.digitChar (c.toNat - '0'.toNat) = c := by
  have hrange : 48 ≤ c.toNat ∧ c.toNat ≤ 57 := by
    rw [Char.isDigit, Bool.and_eq_true, decide_eq_true_eq, decide_eq_true_eq] at h
    exact h
  have hzero : '0'.toNat = 48 := rfl
  have hlt : c.toNat - '0'.toNat < 10 := by omega
  refine ⟨hlt, Char.toNat_inj.mp ?_⟩
  rw [Nat.toNat_digitChar_of_lt_ten hlt]
  omega

/-- Further digits are written behind the digits of a number that is not zero. -/
theorem toDigits_ofDigitChars_of_pos {cs : List Char} (hcs : ∀ c ∈ cs, c.isDigit) {n : Nat}
    (hn : 0 < n) : Nat.toDigits 10 (Nat.ofDigitChars 10 cs n) = Nat.toDigits 10 n ++ cs := by
  induction cs generalizing n with
  | nil => rw [Nat.ofDigitChars_nil, List.append_nil]
  | cons c cs ih =>
      obtain ⟨hc, hcs⟩ := List.forall_mem_cons.mp hcs
      obtain ⟨hlt, hchar⟩ := digitChar_of_isDigit hc
      rw [Nat.ofDigitChars_cons, ih hcs (by omega),
        ← Nat.toDigits_append_toDigits (by decide) hn hlt, Nat.toDigits_of_lt_base hlt, hchar,
        List.append_assoc, List.singleton_append]

theorem IsDecimal.toDigits_ofDigitChars {cs : List Char} (h : IsDecimal cs) :
    Nat.toDigits 10 (Nat.ofDigitChars 10 cs 0) = cs := by
  cases cs with
  | nil => exact absurd rfl h.ne_nil
  | cons c cs =>
      obtain ⟨hc, hcs⟩ := List.forall_mem_cons.mp h.isDigit
      obtain ⟨hlt, hchar⟩ := digitChar_of_isDigit hc
      by_cases hzero : c = '0'
      · rw [h.eq_zero (by rw [hzero]; rfl)]
        decide
      · have hpos : 0 < c.toNat - '0'.toNat := by
          refine Nat.pos_of_ne_zero fun heq => hzero ?_
          rw [← hchar, heq]
          rfl
        rw [Nat.ofDigitChars_cons, Nat.mul_zero, Nat.zero_add,
          toDigits_ofDigitChars_of_pos hcs hpos, Nat.toDigits_of_lt_base hlt, hchar,
          List.singleton_append]

theorem eq_zero_of_head?_toDigits {n : Nat} (h : (Nat.toDigits 10 n).head? = some '0') :
    n = 0 := by
  induction n using Nat.strongRecOn with
  | ind n ih =>
      rw [Nat.toDigits_eq_if (by decide)] at h
      split at h
      · exact Nat.digitChar_eq_zero.mp (Option.some.inj h)
      · next hn =>
          rw [List.head?_append, Option.or_eq_some_iff, List.head?_eq_none_iff] at h
          obtain h | ⟨hnil, -⟩ := h
          · have hquotient := ih (n / 10) (by omega) h
            omega
          · exact absurd hnil Nat.toDigits_ne_nil

theorem isDecimal_toDigits (n : Nat) : IsDecimal (Nat.toDigits 10 n) where
  ne_nil := Nat.toDigits_ne_nil
  isDigit _ hc := Nat.isDigit_of_mem_toDigits (by decide) (by decide) hc
  eq_zero h := by rw [eq_zero_of_head?_toDigits h]; rfl

/-- The tests of a segment are what makes it a decimal, and what is left is reading. -/
theorem index?_eq_some_iff_read {s : String} {i : Nat} :
    index? s = some i ↔ IsDecimal s.toList ∧ readFitting? 0 s.toList = some i := by
  rw [index?, Option.ite_none_right_eq_some]
  refine and_congr_left fun _ => ?_
  simp only [Bool.and_eq_true, Bool.or_eq_true, Bool.not_eq_true', List.isEmpty_eq_false_iff,
    List.all_eq_true, beq_iff_eq, bne_iff_ne]
  have hzero : s = "0" ↔ s.toList = ['0'] := String.toList_inj.symm
  rw [hzero]
  constructor
  · rintro ⟨⟨hne, hdigit⟩, hlead⟩
    exact ⟨hne, hdigit, fun hhead => hlead.resolve_right (not_not_intro hhead)⟩
  · rintro ⟨hne, hdigit, hlead⟩
    refine ⟨⟨hne, hdigit⟩, ?_⟩
    by_cases hhead : s.toList.head? = some '0'
    · exact .inl (hlead hhead)
    · exact .inr hhead

/-- A segment is an index exactly if it is the decimal of one that fits. -/
theorem index?_eq_some_iff {s : String} {i : Nat} :
    index? s = some i ↔ s = Nat.repr i ∧ i < 0x10000000000000000 := by
  rw [index?_eq_some_iff_read, readFitting?_eq_some_iff (by decide)]
  constructor
  · rintro ⟨hdecimal, rfl, hi⟩
    refine ⟨?_, hi⟩
    rw [Nat.repr_eq_ofList_toDigits, hdecimal.toDigits_ofDigitChars, String.ofList_toList]
  · rintro ⟨rfl, hi⟩
    rw [Nat.toList_repr]
    exact ⟨isDecimal_toDigits i, Nat.ofDigitChars_ten_toDigits, hi⟩

end Path

end ConstraintTree

import Mathlib.Tactic.SplitIfs

/-!
# Texts and their bytes are in the same order

Two texts are compared character by character. Comparing their bytes instead
gives the same answer, though a character takes one to four of them.

The bytes of a code point are its digits to the base 64. All but the first one
are moved to where no first byte is, and the first one is moved up by so much
that more bytes also mean a greater first byte. So of two code points the
smaller one has the smaller bytes, and they differ within the shorter of the
two. What comes after them is never asked.
-/

namespace ConstraintTree

namespace Utf8

/-- The bytes of a text. -/
def bytes (s : String) : List UInt8 := s.toUTF8.data.toList

theorem bytes_eq_flatMap (s : String) : bytes s = s.toList.flatMap String.utf8EncodeChar := by
  rw [bytes, String.toUTF8_eq_toByteArray, ← String.utf8Encode_toList, List.utf8Encode,
    List.toList_data_toByteArray]

theorem ofNat_lt_ofNat {m n : Nat} (h : m < n) (hn : n < 256) :
    UInt8.ofNat m < UInt8.ofNat n := by
  rw [UInt8.lt_iff_toNat_lt, UInt8.toNat_ofNat_of_lt' (Nat.lt_trans h hn),
    UInt8.toNat_ofNat_of_lt' hn]
  exact h

/-! ## One code point -/

/-- A first byte, which says by its offset how many more there are. -/
def lead (offset n : Nat) : List UInt8 := [UInt8.ofNat (n + offset)]

/-- One more byte at the end, for the last digit to the base 64. -/
def withTail (encode : Nat → List UInt8) (n : Nat) : List UInt8 :=
  encode (n / 64) ++ [UInt8.ofNat (n % 64 + 0x80)]

/-- The bytes of a code point. -/
def encode (n : Nat) : List UInt8 :=
  if n ≤ 0x7F then lead 0 n
  else if n ≤ 0x7FF then withTail (lead 0xC0) n
  else if n ≤ 0xFFFF then withTail (withTail (lead 0xE0)) n
  else withTail (withTail (withTail (lead 0xF0))) n

theorem toNat_lt (c : Char) : c.toNat < 0x110000 := by
  have hvalid : c.toNat.isValidChar := c.valid
  unfold Nat.isValidChar at hvalid
  omega

theorem utf8EncodeChar_eq (c : Char) : String.utf8EncodeChar c = encode c.toNat := by
  have hc := toNat_lt c
  rw [String.utf8EncodeChar, encode, Char.toNat_val]
  generalize c.toNat = n at hc
  simp only [withTail, lead, Nat.div_div_eq_div_mul, Nat.reduceMul, List.cons_append,
    List.nil_append]
  split
  · rfl
  · split
    · rw [Nat.mod_eq_of_lt (show n / 64 < 0x20 by omega)]
    · split
      · rw [Nat.mod_eq_of_lt (show n / 4096 < 0x10 by omega)]
      · rw [Nat.mod_eq_of_lt (show n / 262144 < 0x08 by omega)]

theorem withTail_append (encode : Nat → List UInt8) (n : Nat) (xs : List UInt8) :
    withTail encode n ++ xs = encode (n / 64) ++ UInt8.ofNat (n % 64 + 0x80) :: xs := by
  rw [withTail, List.append_assoc, List.singleton_append]

theorem lead_lt {offset offset' m n : Nat} (h : m + offset < n + offset')
    (hn : n + offset' < 256) (xs ys : List UInt8) :
    lead offset m ++ xs < lead offset' n ++ ys :=
  List.cons_lt_cons_iff.mpr (.inl (ofNat_lt_ofNat h hn))

/-- Of two numbers below `limit` the smaller one has the smaller bytes, whatever
comes after them. -/
def Ordered (limit : Nat) (encode : Nat → List UInt8) : Prop :=
  ∀ m n, m < n → n < limit → ∀ xs ys, encode m ++ xs < encode n ++ ys

theorem ordered_lead (limit offset : Nat) (h : limit + offset ≤ 256) :
    Ordered limit (lead offset) := by
  intro m n hmn hn xs ys
  exact lead_lt (by omega) (by omega) xs ys

theorem Ordered.withTail {limit : Nat} {encode : Nat → List UInt8} (h : Ordered limit encode) :
    Ordered (limit * 64) (withTail encode) := by
  intro m n hmn hn xs ys
  rw [withTail_append, withTail_append]
  by_cases hfront : m / 64 = n / 64
  · rw [hfront]
    refine List.append_left_lt (List.cons_lt_cons_iff.mpr (.inl ?_))
    exact ofNat_lt_ofNat (by omega) (by omega)
  · exact h _ _ (by omega) (by omega) _ _

/-- The order of code points is that of their bytes. The smaller one has as many
bytes as the other, and they differ in a digit, or it has fewer, and they differ in
the first one. -/
theorem ordered_encode : Ordered 0x110000 encode := by
  intro m n hmn hn xs ys
  have one := ordered_lead 0x80 0 (by decide)
  have two := (ordered_lead 0x20 0xC0 (by decide)).withTail
  have three := (ordered_lead 0x10 0xE0 (by decide)).withTail.withTail
  have four := (ordered_lead 0x08 0xF0 (by decide)).withTail.withTail.withTail
  rw [encode, encode]
  split
  next h₁ =>
    split
    next => exact one m n hmn (by omega) xs ys
    next =>
      split_ifs
      all_goals
        simp only [withTail_append]
        exact lead_lt (by omega) (by omega) _ _
  next h₁ =>
    rw [if_neg (show ¬n ≤ 0x7F by omega)]
    split
    next h₂ =>
      split
      next => exact two m n hmn (by omega) xs ys
      next =>
        split_ifs
        all_goals
          simp only [withTail_append]
          exact lead_lt (by omega) (by omega) _ _
    next h₂ =>
      rw [if_neg (show ¬n ≤ 0x7FF by omega)]
      split
      next h₃ =>
        split
        next => exact three m n hmn (by omega) xs ys
        next =>
          simp only [withTail_append]
          exact lead_lt (by omega) (by omega) _ _
      next h₃ =>
        rw [if_neg (show ¬n ≤ 0xFFFF by omega)]
        exact four m n hmn (by omega) xs ys

/-! ## Texts -/

theorem flatMap_lt {cs ds : List Char} (h : cs < ds) :
    cs.flatMap String.utf8EncodeChar < ds.flatMap String.utf8EncodeChar := by
  induction h with
  | @nil d ds =>
      obtain ⟨b, bs, hd⟩ := List.exists_cons_of_ne_nil (String.utf8EncodeChar_ne_nil (c := d))
      rw [List.flatMap_nil, List.flatMap_cons, hd]
      exact List.nil_lt_cons b _
  | @rel c cs d ds hcd =>
      rw [List.flatMap_cons, List.flatMap_cons, utf8EncodeChar_eq, utf8EncodeChar_eq]
      exact ordered_encode _ _ hcd (toNat_lt d) _ _
  | cons _ ih =>
      rw [List.flatMap_cons, List.flatMap_cons]
      exact List.append_left_lt ih

theorem bytes_lt_bytes {s t : String} (h : s < t) : bytes s < bytes t := by
  rw [bytes_eq_flatMap, bytes_eq_flatMap]
  exact flatMap_lt h

/-- UTF-16 would put these two the other way round. -/
example : bytes "\uFF5E" < bytes "😀" := bytes_lt_bytes (by decide)

end Utf8

end ConstraintTree

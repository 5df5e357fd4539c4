/-!
# Sets of characters

A set of characters is a list of ranges of code points, in ascending order and
with a gap between any two, so that each set has one form. Surrogates are code
points and no characters: no text holds one, and they are left out of every
complement.

The tables of character properties are texts of decimal numbers, which say by
turns how many code points to skip and how many to take.
-/

namespace ConstraintTree

/-- A set of characters, by ranges of code points, both ends included. -/
structure CharSet where
  ranges : Array (Nat × Nat)
  deriving DecidableEq

namespace CharSet

/-- No characters. -/
def empty : CharSet := ⟨#[]⟩

instance : Inhabited CharSet := ⟨empty⟩

/-- The last code point. -/
def maxCode : Nat := 0x10FFFF

/-- Whether `code` is in one of the ranges from `low` up to `high`. -/
def search (ranges : Array (Nat × Nat)) (code low high : Nat) : Bool :=
  if _h : low < high then
    let middle := (low + high) / 2
    let (first, last) := ranges.getD middle (0, 0)
    if code < first then search ranges code low middle
    else if last < code then search ranges code (middle + 1) high
    else true
  else
    false
termination_by high - low
decreasing_by all_goals omega

/-- Whether a code point is in a set. -/
def containsCode (s : CharSet) (code : Nat) : Bool := search s.ranges code 0 s.ranges.size

/-- Whether a character is in a set. -/
def contains (s : CharSet) (c : Char) : Bool := s.containsCode c.toNat

/-- Joins ranges that touch or overlap; they come by ascending first code point. -/
def join : List (Nat × Nat) → List (Nat × Nat)
  | [] => []
  | [r] => [r]
  | (a, b) :: (c, d) :: rest =>
    if c ≤ b + 1 then join ((a, max b d) :: rest) else (a, b) :: join ((c, d) :: rest)
termination_by rs => rs.length

/-- The set of some ranges, in any order. -/
def ofRanges (ranges : List (Nat × Nat)) : CharSet :=
  ⟨(join (ranges.mergeSort fun r s => r.1 ≤ s.1)).toArray⟩

/-- The characters from a first to a last one. -/
def ofRange (first last : Char) : CharSet :=
  if first.toNat < 0xD800 ∧ 0xDFFF < last.toNat then
    ⟨#[(first.toNat, 0xD7FF), (0xE000, last.toNat)]⟩
  else
    ⟨#[(first.toNat, last.toNat)]⟩

/-- The set of one character. -/
def singleton (c : Char) : CharSet := ⟨#[(c.toNat, c.toNat)]⟩

/-- The characters of either set. -/
def union (s t : CharSet) : CharSet := ofRanges (s.ranges.toList ++ t.ranges.toList)

/-- The characters of any of some sets. -/
def unions (sets : List CharSet) : CharSet :=
  ofRanges (sets.flatMap fun s => s.ranges.toList)

/-- The gaps between ranges, from `first` to the last code point. -/
def gaps (first : Nat) : List (Nat × Nat) → List (Nat × Nat)
  | [] => if first ≤ maxCode then [(first, maxCode)] else []
  | (a, b) :: rest => if first < a then (first, a - 1) :: gaps (b + 1) rest else gaps (b + 1) rest

/-- The surrogates, which are not characters. -/
def surrogates : CharSet := ⟨#[(0xD800, 0xDFFF)]⟩

/-- The characters that are not in a set. -/
def complement (s : CharSet) : CharSet := ⟨(gaps 0 (s.union surrogates).ranges.toList).toArray⟩

/-- All characters. -/
def all : CharSet := complement empty

/-- The characters of both sets. -/
def inter (s t : CharSet) : CharSet := (s.complement.union t.complement).complement

/-- The characters of the first set that are not in the second. -/
def diff (s t : CharSet) : CharSet := s.inter t.complement

/-- The characters of one set but not of both. -/
def symmDiff (s t : CharSet) : CharSet := (s.union t).diff (s.inter t)

/-- Whether there are no characters in a set. -/
def isEmpty (s : CharSet) : Bool := s.ranges.isEmpty

/-- The character of a set that holds just one. -/
def only? (s : CharSet) : Option Char :=
  match s.ranges.toList with
  | [(first, last)] => if first = last then some (Char.ofNat first) else none
  | _ => none

/-- Whether all characters of a set are below 128. -/
def isAscii (s : CharSet) : Bool := s.ranges.all fun r => r.2 < 0x80

end CharSet

/-! ## Tables -/

namespace Table

/-- The words of a text, between blanks and line ends. -/
def words (text : String) : List String :=
  let close (word : List Char) (done : List String) : List String :=
    if word.isEmpty then done else String.ofList word.reverse :: done
  let (word, done) := text.toList.foldl
    (fun ((word, done) : List Char × List String) c =>
      if c = ' ' ∨ c = '\n' then ([], close word done) else (c :: word, done))
    ([], [])
  (close word done).reverse

/-- The number that a word writes. -/
def number (word : String) : Nat := Nat.ofDigitChars 10 word.toList 0

/-- The ranges that are taken by numbers which skip and take by turns. -/
def taken (start : Nat) : List Nat → List (Nat × Nat)
  | skip :: take :: rest =>
    (start + skip, start + skip + take - 1) :: taken (start + skip + take) rest
  | _ => []

end Table

/-- The set of a table. -/
def CharSet.ofTable (text : String) : CharSet :=
  ⟨(Table.taken 0 ((Table.words text).map Table.number)).toArray⟩

end ConstraintTree

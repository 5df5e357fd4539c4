import ConstraintTree.Number.Shortest

/-!
# Numbers of a document

A number is an integer of 64 bits, with or without a sign, or a binary
floating-point number. The two kinds stay apart: an integer and a float of the
same value are different numbers, although comparing them by value, after
rounding the integer, finds them equal.

Reading a numeral never needs more than 64 bits of significand. Digits past
those only shift the exponent, or are dropped after the point, and the
significand is rounded once and then scaled by rounded powers of ten.
-/

namespace ConstraintTree

/-- A number: an integer in the range of signed or unsigned 64-bit words, or a
finite float. -/
inductive Number where
  | int (n : Int) (low : -0x8000000000000000 ≤ n) (high : n < 0x10000000000000000)
  | float (x : Binary64)

namespace Number

/-- An integer as a number, if it is within the limits of one. -/
def ofInt? (n : Int) : Option Number :=
  if h : -0x8000000000000000 ≤ n ∧ n < 0x10000000000000000 then some (.int n h.1 h.2) else none

/-- The number as a float; an integer is rounded to the nearest. -/
def toBinary64 : Number → Binary64
  | .int n low high => .ofInt n (by omega)
  | .float x => x

/-- The exact value, counted in units of `2 ^ -1074`. -/
def units : Number → Int
  | .int n _ _ => n * Binary64.one
  | .float x => x.units

/-- The same number: of one kind and of one value. -/
instance : BEq Number where
  beq
    | .int n _ _, .int m _ _ => n == m
    | .float x, .float y => x == y
    | _, _ => false

end Number

/-- A numeral as it is written: sign, integer digits, fraction digits and
exponent. -/
structure Numeral where
  negative : Bool
  integer : List Nat
  fraction : List Nat
  exponent : Int
  /-- Written with a point or an exponent. -/
  isFloat : Bool

namespace Numeral

/-- The value of some digits, most significant first. -/
def value (digits : List Nat) : Nat := digits.foldl (fun n d => n * 10 + d) 0

/-- Appends digits to a significand as long as it stays below `2 ^ 64`, and
gives back the digits that are left. -/
def gather (significand : Nat) : List Nat → Nat × List Nat
  | [] => (significand, [])
  | d :: ds =>
    if significand * 10 + d < 0x10000000000000000 then gather (significand * 10 + d) ds
    else (significand, d :: ds)

/-- The significand of at most 64 bits and the exponent of ten that goes with
it. Integer digits that do not fit raise the exponent, fraction digits that do
not fit are dropped. -/
def significand (n : Numeral) : Nat × Int :=
  let (whole, restWhole) := gather 0 n.integer
  let (all, restFraction) := gather whole n.fraction
  (all, n.exponent + restWhole.length - (n.fraction.length - restFraction.length : Nat))

/-- Divides `x` by `y` some times over, or until the quotient is zero. -/
def divTimes (x y : Binary64) : Nat → Option Binary64
  | 0 => some x
  | n + 1 => if x.isZero then some x else (x.div? y).bind (divTimes · y n)

/-- The largest power of ten that is a float. -/
def maxPowTen : Nat := 308

/-- Divides by `10 ^ (k + 1)`, by the largest power of ten at a time and by
what remains at the end. -/
def scaleDown (x : Binary64) (k : Nat) : Option Binary64 := do
  let whole := k / maxPowTen
  let y ← divTimes x (← Binary64.powTen? maxPowTen) whole
  y.div? (← Binary64.powTen? (k + 1 - whole * maxPowTen))

/-- The significand times a power of ten; there is none if it is out of range. -/
def scale (x : Binary64) : Int → Option Binary64
  | .ofNat k =>
    if k ≤ maxPowTen then do
      x.mul? (← Binary64.powTen? k)
    else if x.isZero then
      some x
    else
      none
  | .negSucc k => scaleDown x k

/-- The float for a numeral. There is none if it is too large. -/
def toBinary64? (n : Numeral) : Option Binary64 := do
  let (significand, exponent) := n.significand
  let x ← scale (← Binary64.ofRatio? significand 1) exponent
  return if n.negative then x.neg else x

/-- The number that a numeral reads as. It is an integer if it has neither a
point nor an exponent, fits 64 bits and is not a negated zero; a number that is
too large for a float is none. -/
def toNumber? (n : Numeral) : Option Number :=
  let whole := value n.integer
  let integer : Option Number :=
    if n.isFloat ∨ (n.negative ∧ whole = 0) then none
    else Number.ofInt? (if n.negative then -(whole : Int) else whole)
  integer <|> n.toBinary64?.map .float

/-- The digits that a text begins with, and what is left after them. -/
def digits : List Char → List Nat × List Char
  | c :: cs =>
    if c.isDigit then
      let (ds, rest) := digits cs
      ((c.toNat - '0'.toNat) :: ds, rest)
    else ([], c :: cs)
  | [] => ([], [])

/-- Reads the exponent part that ends a numeral: nothing, or a mark, a sign
that may be left off, and digits. -/
def exponent? : List Char → Option (Option Int)
  | [] => some none
  | mark :: rest =>
    if mark = 'e' ∨ mark = 'E' then
      let (sign, rest) : Int × List Char := match rest with
        | '-' :: rest => (-1, rest)
        | '+' :: rest => (1, rest)
        | rest => (1, rest)
      match digits rest with
      | (d :: ds, []) => some (some (sign * value (d :: ds)))
      | _ => none
    else none

/-- Reads a whole numeral. Its integer part has no leading zero, and a point
and an exponent mark are each followed by a digit. -/
def ofChars? (cs : List Char) : Option Numeral := do
  let (negative, cs) := match cs with
    | '-' :: rest => (true, rest)
    | rest => (false, rest)
  let (integer, cs) := digits cs
  match integer with
  | [] => none
  | 0 :: _ :: _ => none
  | _ =>
    let (fraction, cs) ← match cs with
      | '.' :: rest =>
        match digits rest with
        | ([], _) => none
        | (ds, rest) => some (some ds, rest)
      | rest => some (none, rest)
    let exponent ← exponent? cs
    return {
      negative, integer, fraction := fraction.getD [], exponent := exponent.getD 0,
      isFloat := fraction.isSome || exponent.isSome }

end Numeral

namespace Binary64

/-- The text of a float: the shortest digits that read back, in positional
notation when the exponent of the first digit is between -5 and 15, and
otherwise with an exponent whose sign is always written. There is always a
point or an exponent. -/
def text (x : Binary64) : String :=
  let d := x.shortest
  let digits := (Nat.repr d.digits).toList
  let e := d.scientificExponent
  let zeros (n : Nat) : List Char := List.replicate n '0'
  let body : List Char :=
    if -5 ≤ e ∧ e < 0 then
      '0' :: '.' :: zeros (-e - 1).toNat ++ digits
    else if 0 ≤ e ∧ e ≤ 15 then
      let whole := digits.take (e.toNat + 1)
      let fraction := digits.drop (e.toNat + 1)
      whole ++ zeros (e.toNat + 1 - whole.length) ++
        '.' :: (if fraction.isEmpty then ['0'] else fraction)
    else
      let fraction := digits.drop 1
      digits.take 1 ++ (if fraction.isEmpty then [] else '.' :: fraction) ++
        'e' :: (if e < 0 then '-' else '+') :: (Nat.repr e.natAbs).toList
  String.ofList (if x.negative then '-' :: body else body)

end Binary64

/-- The text of a number: an integer in decimal, a float by its shortest digits. -/
def Number.text : Number → String
  | .int n _ _ => if n < 0 then "-" ++ Nat.repr n.natAbs else Nat.repr n.natAbs
  | .float x => x.text

end ConstraintTree

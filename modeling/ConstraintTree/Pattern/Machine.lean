import ConstraintTree.Pattern.Expr
import ConstraintTree.Pattern.Shared
import ConstraintTree.Pattern.WordTree

/-!
# How large a pattern may be

Counted repetitions make short patterns large, so there is a limit on how large
a pattern becomes. What counts are two machines over the bytes of a text, one
that reads forward and one that reads backward.

The machines are not built. An expression is reduced to parts whose size is
known and to sets that go beyond 128, and then the parts are laid out one after
another, as long as the limit is not passed. Each time that a part is repeated
takes some memory, so this does not take long however high the count.
-/

namespace ConstraintTree

namespace Pattern

/-- In which direction a machine reads. -/
inductive Direction where
  | forward
  | backward
  deriving DecidableEq

/-- What is laid out for an expression. -/
inductive Part where
  | fixed (size : Size)
  | tree (t : ByteTree)
  | rows (sequences : List (List ByteRange))
  | pair (first second : Part)
  | copies (n : Nat) (sub : Part)

namespace Part

/-! ## Putting parts together -/

/-- Lays out one part after another. What is known of both is added up at once. -/
def append : Part → Part → Part
  | .fixed a, .fixed b => .fixed (a + b)
  | p, q => .pair p q

instance : Append Part := ⟨append⟩

/-- So many copies of a part. -/
def times (n : Nat) : Part → Part
  | .fixed a => .fixed (a.times n)
  | p => .copies n p

/-- A part that takes no state. -/
def nothing : Part := .fixed .zero

/-- So many states with one way out. -/
def states (n : Nat) : Part := .fixed (.plain n)

/-- A state that chooses between two ways. -/
def fork : Part := .fixed (.choice 2)

/-! ## Laying out -/

/-- Repeats a step so many times, but not beyond the limit. -/
def repeated (step : Size → Size) : Nat → Size → Size
  | 0, size => size
  | n + 1, size => if Size.limit < size.memory then size else repeated step n (step size)

/-- Lays out a part after what is there. -/
def lay : Part → Size → Size
  | .fixed a, size => size + a
  | .tree t, size => size.layTree t
  | .rows sequences, size => size.layRows sequences
  | .pair p q, size => lay q (lay p size)
  | .copies n p, size => repeated (lay p) n size

/-! ## The parts of an expression -/

/-- The bytes of characters in a row. -/
def bytes (text : List Char) : List Nat := text.flatMap fun c => ByteRange.bytes c.toNat

/-- The bytes of an expression that is characters in a row. -/
def word? : Expr → Option (List Nat)
  | .literal text => some (bytes text)
  | _ => none

/-- A choice between words, read from their first or from their last bytes. -/
def ofWords (words : List (List Nat)) : Direction → Part
  | .forward => .fixed (WordTree.size words)
  | .backward => .fixed (WordTree.size (words.map List.reverse))

/-- One character of a set. Below 128 there is one list of bytes. -/
def ofSet (s : CharSet) (d : Direction) : Part :=
  if s.isAscii then states 1 ++ .fixed (.list s.ranges.size)
  else
    let sequences := ByteRange.ofSet s
    match d with
    | .forward => .tree (.ofSequences sequences)
    | .backward => .rows sequences

/-- A repetition of a part. A loop over what may be empty takes more states than
one over what always consumes a character. -/
def repetition (low : Nat) (high : Option Nat) (consumes : Bool) (p : Part) : Part :=
  match low, high with
  | 0, some 1 => fork ++ p ++ states 1
  | 0, none => if consumes then fork ++ p else p ++ fork ++ fork ++ states 1
  | low, none => p.times low ++ fork
  | low, some high =>
    if low = high then p.times low
    else
      (if low = 0 then states 1 else p.times low) ++ states 1 ++ (fork ++ p).times (high - low)

/-- A choice. The first two branches come before the state that chooses. -/
def choice : List Part → Part
  | p :: q :: ps =>
    ps.foldl (· ++ ·) (p ++ q ++ .fixed (.choice (ps.length + 2)) ++ states 1)
  | ps => ps.foldl (· ++ ·) nothing

mutual

/-- The parts of an expression. Only the machine that reads forward keeps where
groups begin and end. -/
def ofExpr (d : Direction) : Expr → Part
  | .empty => states 1
  | .literal text => states (bytes text).length
  | .set _ s => ofSet s d
  | .look _ => states 1
  | .repetition low high _ sub => repetition low high sub.consumes (ofExpr d sub)
  | .capture sub =>
    match d with
    | .forward => states 1 ++ ofExpr d sub ++ states 1
    | .backward => ofExpr d sub
  | .concat items => ofRow d items
  | .alternation branches =>
    match branches.mapM word? with
    | some words => ofWords words d
    | none => choice (ofEach d branches)

/-- The parts of expressions in a row, in the order in which they are read. -/
def ofRow (d : Direction) : List Expr → Part
  | [] => nothing
  | e :: es =>
    match d with
    | .forward => ofExpr d e ++ ofRow d es
    | .backward => ofRow d es ++ ofExpr d e

/-- The parts of each of some expressions. -/
def ofEach (d : Direction) : List Expr → List Part
  | [] => []
  | e :: es => ofExpr d e :: ofEach d es

end

/-- All parts of a machine. A match may begin anywhere unless the expression says
where, so there is a loop over any byte in front; and a match as a whole is kept
like that of a group. -/
def ofMachine (d : Direction) (e : Expr) : Part :=
  let isAnchored :=
    match d with
    | .forward => e.isBound .start false
    | .backward => e.isBound .finish true
  let front := if isAnchored then states 1 else fork ++ states 1 ++ .fixed (.list 1)
  front ++ ofExpr d (.capture e) ++ states 1

end Part

namespace Expr

/-- Whether an expression is a choice between thousands of words. These are
looked up in a dictionary, which needs neither machine and has no limit. -/
def isDictionary : Expr → Bool
  | .alternation branches => 3000 ≤ branches.length && (branches.mapM Part.word?).isSome
  | _ => false

/-- Whether both machines of an expression fit in the memory that is granted. -/
def isWithinLimit (e : Expr) : Bool :=
  e.isDictionary || [Direction.forward, .backward].all fun d =>
    ((Part.ofMachine d e).lay .zero).memory ≤ Size.limit

end Expr

end Pattern

end ConstraintTree

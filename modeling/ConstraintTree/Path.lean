import ConstraintTree.Json.Basic

/-!
# Dotted paths

A path names a place in a document by segments with dots between them: a key
of an object, or the position of an array item as a decimal. The empty path is
the whole document.

An item has one spelling only. A segment is an index when it consists of the digits
from `0` to `9` and does not begin with a zero, unless it is `0`, and the number fits
64 bits. So an index is written in the way in which its decimal is written, and no sign
and no other digits are accepted.
-/

namespace ConstraintTree

namespace Path

/-- The pieces of a text between its dots. There is always at least one. -/
def segments (path : String) : List String := (path.toList.splitOn '.').map String.ofList

/-- Reads digits from the left and gives up when the number does not fit. -/
def readFitting? (n : Nat) : List Char → Option Nat
  | [] => some n
  | c :: cs =>
    let m := 10 * n + (c.toNat - '0'.toNat)
    if m < 0x10000000000000000 then readFitting? m cs else none

/-- The index that a segment spells in digits, without a zero in front of others. -/
def index? (segment : String) : Option Nat :=
  let cs := segment.toList
  let digits := !cs.isEmpty && cs.all Char.isDigit
  if digits && (segment == "0" || cs.head? != some '0') then readFitting? 0 cs else none

/-- One step further down. Nothing stands in front of the first segment. -/
def join (parent segment : String) : String :=
  if parent = "" then segment else parent ++ "." ++ segment

/-- The path of an item of the array at `parent`. -/
def item (parent : String) (i : Nat) : String := join parent (Nat.repr i)

end Path

namespace Json

/-- The value that one segment leads to: a member of an object or an item of an
array. -/
def child? (v : Json) (segment : String) : Option Json :=
  match v with
  | .obj ms => ms.lookup segment
  | .arr xs => (Path.index? segment).bind (xs[·]?)
  | _ => none

/-- The value that many segments lead to, one after another. -/
def descend? (v : Json) : List String → Option Json
  | [] => some v
  | s :: ss => (v.child? s).bind (descend? · ss)

/-- The value at a path. The empty path is the whole document. -/
def get? (data : Json) (path : String) : Option Json :=
  if path = "" then some data else data.descend? (Path.segments path)

end Json

end ConstraintTree

import Std.Data.HashMap
import ConstraintTree.Pattern.ByteRange
import ConstraintTree.Pattern.Size

/-!
# States that are shared

The states of a set of characters beyond 128 are shared: a state that is made
like an earlier one is that state. Earlier states are looked up in a table of
fixed size, at a place that is computed from what a state is made of, and a
later state takes the place of an earlier one. So an equal state may be missed,
and whether it is depends on the numbers of the states that it leads to. This is
why a set is laid out anew each time that it is repeated.
-/

namespace ConstraintTree

namespace Pattern

/-- The states so far, and those that can be found by what they are made of,
with their numbers. -/
structure Shared where
  size : Size
  found : Std.HashMap Nat (List Nat × Nat)

namespace Shared

/-- The place of what a state is made of, in a table of so many places. -/
def place (places : Nat) (key : List Nat) : Nat :=
  let mixed := key.foldl (fun (mix : UInt64) n => (mix ^^^ n.toUInt64) * 0x100000001B3)
    0xCBF29CE484222325
  mixed.toNat % places

/-- The number of a state that is made of `key`. One that cannot be found is
added, and counts as much as `added`. -/
def state (places : Nat) (key : List Nat) (added : Size) (s : Shared) : Nat × Shared :=
  let spot := place places key
  let add (_ : Unit) : Nat × Shared :=
    (s.size.states, ⟨s.size + added, s.found.insert spot (key, s.size.states)⟩)
  match s.found[spot]? with
  | some (k, number) => if k = key then (number, s) else add ()
  | none => add ()

/-- Reading forward, a state is made of its ways: two ends of a byte range and
the number of the next state for each. -/
def listState (key : List Nat) (s : Shared) : Nat × Shared :=
  s.state 10000 key (.list (key.length / 3))

/-- Adds the states that the ways of a tree lead to, and says what the state of
these ways is made of. Where a sequence ends, `stop` comes next. -/
def ways (stop : Nat) : ByteTree → Shared → List Nat × Shared
  | .stop, s => ([], s)
  | .way r below beside, s =>
    let (key, s) := ways stop below s
    let (next, s) := if key.isEmpty then (stop, s) else s.listState key
    let (others, s) := ways stop beside s
    (r.first :: r.last :: next :: others, s)

end Shared

namespace Size

/-- Lays out the tree of a set, for reading forward. -/
def layTree (t : ByteTree) (size : Size) : Size :=
  let stop := size.states
  let (key, s) := Shared.ways stop t ⟨size + plain 1, ∅⟩
  (s.listState key).2.size

/-- Lays out the sequences of a set, for reading backward. Each sequence goes
from its first byte range to its last, which is the way in, and has a state for
each range; sequences that begin alike share these states. -/
def layRows (sequences : List (List ByteRange)) (size : Size) : Size :=
  let stop := size.states + 1
  let row (s : Shared) (ranges : List ByteRange) : Shared :=
    (ranges.foldl
      (fun ((next, s) : Nat × Shared) r => s.state 1000 [next, r.first, r.last] (plain 1))
      (stop, s)).2
  (sequences.foldl row ⟨size + choice sequences.length + plain 1, ∅⟩).size

end Size

end Pattern

end ConstraintTree

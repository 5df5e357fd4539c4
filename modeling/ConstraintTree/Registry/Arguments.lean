import ConstraintTree.Json.Basic

/-!
# What a function gets and gives

A function gets its arguments already resolved. Each may be missing, and asking
for one past the last is the same as asking for a missing one. It gives a truth
value or a text, and a text counts as true when it is not empty.
-/

namespace ConstraintTree

/-- The arguments of one call, in order. -/
structure Arguments where
  values : List (Option Json)
  deriving BEq

namespace Arguments

/-- How many arguments there are. -/
def size (args : Arguments) : Nat := args.values.length

/-- Whether there are no arguments. -/
def isEmpty (args : Arguments) : Bool := args.values.isEmpty

/-- The argument at an index; there is none if it is missing or was not passed. -/
def get? (args : Arguments) (i : Nat) : Option Json := args.values[i]?.join

/-- Whether there is nothing for an argument, be it that its path leads nowhere or that
there are not so many. -/
def isMissing (args : Arguments) (i : Nat) : Bool := (args.get? i).isNone

/-- The text that an argument is. -/
def str? (args : Arguments) (i : Nat) : Option String := (args.get? i).bind Json.str?

/-- The number that an argument is, as a float. -/
def number? (args : Arguments) (i : Nat) : Option Binary64 :=
  ((args.get? i).bind Json.num?).map Number.toBinary64

/-- The items of an argument that is an array. -/
def array? (args : Arguments) (i : Nat) : Option (List Json) := (args.get? i).bind Json.arr?

end Arguments

/-- What a function comes out as. -/
inductive Resolved where
  | bool (b : Bool)
  | text (s : String)
  deriving DecidableEq, Repr, Inhabited

namespace Resolved

/-- True, or a text that is not empty. -/
def isTruthy : Resolved → Bool
  | .bool b => b
  | .text s => s != ""

/-- The text that a function comes out as. -/
def text? : Resolved → Option String
  | .text s => some s
  | .bool _ => none

end Resolved

/-- A function that rules and conditions can call. -/
abbrev Function := Arguments → Resolved

end ConstraintTree

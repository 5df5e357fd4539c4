import ConstraintTree.Json.Members
import ConstraintTree.Number.Basic

/-!
# JSON values

The data that is validated, and the form in which schemas are written down.

The members of an object have no order of their own. They are kept by
ascending key, each key once, as it is the type of `Members` to say, and
`Json.object` brings any list of members into that form; a member is found by its
key and never by its place.

Two values are the same when they have the same structure, with numbers
compared by kind and value. So `[1]` and `[1.0]` differ, and `[0.0]` and `[-0.0]`
do not.
-/

namespace ConstraintTree

/-- A value: null, a truth value, a number, a text, an array or an object. -/
inductive Json where
  | null
  | bool (b : Bool)
  | num (n : Number)
  | str (s : String)
  | arr (items : List Json)
  | obj (members : Members Json none)
  deriving Inhabited

namespace Json

/-! ## Structural equality -/

mutual

/-- Equality of structure. -/
def same : Json → Json → Bool
  | .null, .null => true
  | .bool a, .bool b => a == b
  | .num a, .num b => a == b
  | .str a, .str b => a == b
  | .arr xs, .arr ys => sameItems xs ys
  | .obj ms, .obj ns => sameMembers ms ns
  | _, _ => false

/-- Item by item equality. -/
def sameItems : List Json → List Json → Bool
  | [], [] => true
  | x :: xs, y :: ys => same x y && sameItems xs ys
  | _, _ => false

/-- Member by member equality, keys included. -/
def sameMembers {b c : Option String} : Members Json b → Members Json c → Bool
  | .nil, .nil => true
  | .cons k x _ ms, .cons l y _ ns => k == l && same x y && sameMembers ms ns
  | _, _ => false

end

instance : BEq Json := ⟨same⟩

/-! ## Objects -/

/-- The object with some members, of which the last of a key counts. -/
def object (members : List (String × Json)) : Json := .obj (.ofList members)

/-- The member of a key; there is none in a value that is no object. -/
def member? (key : String) : Json → Option Json
  | .obj ms => ms.lookup key
  | _ => none

/-! ## Views -/

/-- The text that a value is, if it is one. -/
def str? : Json → Option String
  | .str s => some s
  | _ => none

/-- The number that a value is, if it is one. -/
def num? : Json → Option Number
  | .num n => some n
  | _ => none

/-- The items of a value that is an array. -/
def arr? : Json → Option (List Json)
  | .arr xs => some xs
  | _ => none

end Json

end ConstraintTree

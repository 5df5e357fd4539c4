/-!
# Members in order

The members of an object have no order of their own. They are kept by ascending key,
each key once, so that an object has one form only.

That they are in order is part of their type. Each cell holds a proof that its key is
past the bound, and its own key is the bound for the cells behind it. So no other cells
can be put together, and whoever takes a list of members apart knows of the order.
-/

namespace ConstraintTree

/-- A key may come next behind a bound, or anywhere if there is none. -/
def Past (bound : Option String) (key : String) : Prop := ∀ k ∈ bound, k < key

/-- Members by ascending key, all of them past a bound. -/
inductive Members (α : Type) : Option String → Type where
  | nil {bound : Option String} : Members α bound
  | cons {bound : Option String} (key : String) (value : α) (past : Past bound key)
      (rest : Members α (some key)) : Members α bound

theorem Past.none (key : String) : Past .none key := nofun

theorem past_some_iff {k key : String} : Past (some k) key ↔ k < key :=
  ⟨fun h => h k rfl, fun h _ hk => Option.some.inj hk ▸ h⟩

namespace Members

variable {α : Type}

/-- The value under a key. -/
def lookup {bound : Option String} (ms : Members α bound) (key : String) : Option α :=
  match ms with
  | .nil => none
  | .cons k v _ rest => if k = key then some v else rest.lookup key

/-- Whether there are no members. -/
def isEmpty {bound : Option String} : Members α bound → Bool
  | .nil => true
  | .cons .. => false

/-- Keys and values, in order. -/
def toList {bound : Option String} : Members α bound → List (String × α)
  | .nil => []
  | .cons k v _ rest => (k, v) :: rest.toList

theorem lt_of_not_lt_of_ne {k key : String} (hlt : ¬ key < k) (hne : key ≠ k) : k < key :=
  String.not_le.mp fun hle => hne (String.le_antisymm hle (String.not_lt.mp hlt))

/-- Puts a member in its place; it replaces a member of the same key. -/
def insert (key : String) (value : α) {bound : Option String} (past : Past bound key) :
    Members α bound → Members α bound
  | .nil => .cons key value past .nil
  | .cons k v hk rest =>
    if hlt : key < k then .cons key value past (.cons k v (past_some_iff.mpr hlt) rest)
    else if heq : key = k then .cons k value hk rest
    else .cons k v hk (rest.insert key value (past_some_iff.mpr (lt_of_not_lt_of_ne hlt heq)))

/-- The members of a list, of which the last of a key counts. -/
def ofList (members : List (String × α)) : Members α none :=
  members.foldl (fun ms (key, value) => ms.insert key value (.none key)) .nil

end Members

end ConstraintTree

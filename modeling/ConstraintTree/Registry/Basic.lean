import Std.Data.ExtTreeMap
import ConstraintTree.Registry.Arguments
import ConstraintTree.Schema.Basic

/-!
# Registries

A registry maps names to functions. It is a finite map and nothing more: two
registries with the same functions under the same names are equal, the last
writer of a name wins, and the names are listed in ascending order.
-/

namespace ConstraintTree

/-- Functions by name. -/
structure Registry where
  functions : Std.ExtTreeMap String Function

namespace Registry

/-- A registry before the first function. -/
def empty : Registry := ⟨∅⟩

instance : Inhabited Registry := ⟨empty⟩

/-- Puts a function under a name, in place of what was there. -/
def register (r : Registry) (name : String) (f : Function) : Registry :=
  ⟨r.functions.insert name f⟩

/-- A registry of some entries, the last of which counts for each name. -/
def ofList (entries : List (String × Function)) : Registry :=
  entries.foldl (fun r (name, f) => r.register name f) empty

/-- Lays `overrides` over a registry. Under a name that both have, the function
of `overrides` is kept. -/
def merge (r overrides : Registry) : Registry := ⟨r.functions ∪ overrides.functions⟩

/-- The function of a name. -/
def get? (r : Registry) (name : String) : Option Function := r.functions[name]?

/-- Whether there is a function of a name. -/
def contains (r : Registry) (name : String) : Bool := r.functions.contains name

/-- How many functions there are. -/
def size (r : Registry) : Nat := r.functions.size

/-- Whether there are no functions. -/
def isEmpty (r : Registry) : Bool := r.functions.isEmpty

/-- The names, collected and sorted. -/
def names (r : Registry) : List String := r.functions.keys.mergeSort

end Registry

/-- What a call comes out as when its function is known. -/
def Call.evaluate (c : Call) (f : Function) (root : Json) (target : String) : Resolved :=
  f ⟨c.arguments.map (Argument.resolve root target)⟩

/-- Looks up the function of a call and calls it at `target`. -/
def Registry.resolve (r : Registry) (c : Call) (root : Json) (target : String) :
    Except ConfigurationError Resolved :=
  match r.get? c.function with
  | some f => .ok (c.evaluate f root target)
  | none => .error (.unknownFunction c.function target)

end ConstraintTree

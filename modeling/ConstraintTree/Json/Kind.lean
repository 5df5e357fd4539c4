import ConstraintTree.Json.Basic

/-!
# What kind of value there is

A place in a document may hold no value at all, so the value at a place is an
`Option Json`, in which a missing value and a null are different.

Both questions asked here are total: the kind that a value is said to have when
a type does not fit, in which null counts as an object, and whether a value is
blank, that is missing or empty.
-/

namespace ConstraintTree

/-- The kind of a value that may be missing. No JSON value is a function. -/
inductive Kind where
  | string
  | number
  | boolean
  | object
  | array
  | function
  | undefined
  deriving DecidableEq, Repr

namespace Kind

/-- The kind of the value at a place. -/
def of : Option Json → Kind
  | none => .undefined
  | some .null => .object
  | some (.bool _) => .boolean
  | some (.num _) => .number
  | some (.str _) => .string
  | some (.arr _) => .array
  | some (.obj _) => .object

/-- All kinds. -/
def all : List Kind := [.string, .number, .boolean, .object, .array, .function, .undefined]

/-- How a kind is called. -/
def name : Kind → String
  | .string => "string"
  | .number => "number"
  | .boolean => "boolean"
  | .object => "object"
  | .array => "array"
  | .function => "function"
  | .undefined => "undefined"

/-- The kind that is called so. -/
def ofName? (name : String) : Option Kind := all.find? (·.name == name)

end Kind

/-- A blank value is missing, null, or an empty string, array or object. -/
def isBlank : Option Json → Bool
  | none => true
  | some .null => true
  | some (.str s) => s == ""
  | some (.arr xs) => xs.isEmpty
  | some (.obj ms) => ms.isEmpty
  | some (.bool _) => false
  | some (.num _) => false

end ConstraintTree

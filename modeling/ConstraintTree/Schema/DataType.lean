import ConstraintTree.Json.Kind

/-!
# Declared types

A constraint may declare the type of its value. A type accepts the kind of the
same name, and `any` accepts every kind, that of a missing value included.
-/

namespace ConstraintTree

/-- The types that a node can ask for. -/
inductive DataType where
  | string
  | number
  | boolean
  | object
  | array
  | function
  | any
  deriving DecidableEq, Repr

namespace DataType

/-- The kind that a type asks for; `any` asks for none. -/
def kind? : DataType → Option Kind
  | .string => some .string
  | .number => some .number
  | .boolean => some .boolean
  | .object => some .object
  | .array => some .array
  | .function => some .function
  | .any => none

/-- Whether a value of kind `actual` is of this type. -/
def accepts (t : DataType) (actual : Kind) : Bool :=
  match t.kind? with
  | some k => k == actual
  | none => true

/-- All types. -/
def all : List DataType := [.string, .number, .boolean, .object, .array, .function, .any]

/-- How a type is called. -/
def name : DataType → String
  | .string => "string"
  | .number => "number"
  | .boolean => "boolean"
  | .object => "object"
  | .array => "array"
  | .function => "function"
  | .any => "any"

/-- The type that is called so. -/
def ofName? (name : String) : Option DataType := all.find? (·.name == name)

end DataType

end ConstraintTree

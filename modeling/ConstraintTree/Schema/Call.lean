import ConstraintTree.Path

/-!
# Calls and their arguments

A rule, or a condition under which a value is required, calls a function by its
name. An argument is a value given as it stands, the value under validation, or
the value at a path from the root of the data. Resolving an argument may find
nothing there.
-/

namespace ConstraintTree

/-- What a function is called with. -/
inductive Argument where
  /-- A value as it stands. -/
  | literal (value : Json)
  /-- The value under validation. -/
  | target
  /-- The value at a path from the root. -/
  | path (path : String)
  deriving Inhabited

namespace Argument

/-- The value of an argument when the value at `target` is under validation. -/
def resolve (root : Json) (target : String) : Argument → Option Json
  | .literal value => some value
  | .target => root.get? target
  | .path p => root.get? p

/-- The text that stands for the value under validation where a schema is
written down. -/
def targetToken : String := "$value"

/-- How the text of a path argument begins. -/
def pathMark : List Char := ['$', '.']

/-- The argument that a value stands for. Two forms of text are reserved, and
every other value stands for itself. -/
def ofJson (value : Json) : Argument :=
  match value with
  | .str s =>
    if s = targetToken then .target
    else
      match s.toList with
      | '$' :: '.' :: rest => .path (String.ofList rest)
      | _ => .literal (.str s)
  | value => .literal value

/-- The value that stands for an argument. -/
def toJson : Argument → Json
  | .literal value => value
  | .target => .str targetToken
  | .path p => .str (String.ofList (pathMark ++ p.toList))

instance : BEq Argument where
  beq
    | .literal a, .literal b => a == b
    | .target, .target => true
    | .path p, .path q => p == q
    | _, _ => false

end Argument

/-- A call of a function by name, with the words for its failure. -/
structure Call where
  function : String
  arguments : List Argument
  message? : Option String
  deriving BEq, Inhabited

namespace Call

/-- A call without arguments and without words of its own. -/
def new (function : String) : Call := ⟨function, [], none⟩

/-- Adds an argument. -/
def arg (c : Call) (a : Argument) : Call := { c with arguments := c.arguments ++ [a] }

/-- Adds the argument that a value is read as. -/
def argOf (c : Call) (value : Json) : Call := c.arg (.ofJson value)

/-- Appends a value that stands for itself, whatever it looks like. -/
def literal (c : Call) (value : Json) : Call := c.arg (.literal value)

/-- Adds the value under validation as an argument. -/
def target (c : Call) : Call := c.arg .target

/-- Adds the value at a path as an argument. -/
def path (c : Call) (p : String) : Call := c.arg (.path p)

/-- Sets the message of a call. -/
def withMessage (c : Call) (template : String) : Call := { c with message? := some template }

end Call

end ConstraintTree

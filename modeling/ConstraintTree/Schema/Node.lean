import ConstraintTree.Schema.Call
import ConstraintTree.Schema.DataType

/-!
# Constraint trees

A schema is a forest of nodes. A node carries a constraint, and below it there
is nothing, or a list of nodes for the members of an object, or one node for
all items of an array. This shape does not depend on what the nodes carry, so
it is a type of trees on its own, and the compiled form of a schema is a tree
of the same shape.
-/

namespace ConstraintTree

/-- A tree whose nodes have no children, member nodes, or one item node. -/
inductive Tree (α : Type) where
  | leaf (label : α)
  | fields (label : α) (members : List (Tree α))
  | element (label : α) (item : Tree α)

namespace Tree

variable {α : Type}

/-- What stands at the root of a tree. -/
def label : Tree α → α
  | .leaf a => a
  | .fields a _ => a
  | .element a _ => a

/-- Changes what stands at the root of a tree. -/
def mapTop (f : α → α) : Tree α → Tree α
  | .leaf a => .leaf (f a)
  | .fields a ts => .fields (f a) ts
  | .element a t => .element (f a) t

mutual

/-- Equality of two trees, up to an equality of what they carry. -/
def same (eq : α → α → Bool) : Tree α → Tree α → Bool
  | .leaf a, .leaf b => eq a b
  | .fields a ts, .fields b us => eq a b && sameList eq ts us
  | .element a t, .element b u => eq a b && same eq t u
  | _, _ => false

/-- Whether trees are alike, each to its counterpart. -/
def sameList (eq : α → α → Bool) : List (Tree α) → List (Tree α) → Bool
  | [], [] => true
  | t :: ts, u :: us => same eq t u && sameList eq ts us
  | _, _ => false

end

instance [BEq α] : BEq (Tree α) := ⟨same (· == ·)⟩

end Tree

/-- When a blank value is a failure. -/
inductive Required where
  /-- Always, in the default words, or never. -/
  | flag (required : Bool)
  /-- Always, in these words. -/
  | message (template : String)
  /-- When the call comes out true. -/
  | when (call : Call)
  deriving BEq

/-- What a node asks of its value, and its name. -/
structure Constraint where
  /-- The segment of the node below its parent; idle for an item node. -/
  id : String
  type? : Option DataType
  required? : Option Required
  /-- The rules, in the order in which they are tried. -/
  rules : List Call
  deriving BEq

/-- A constraint that asks for nothing. -/
def Constraint.new (id : String) : Constraint := ⟨id, none, none, []⟩

/-- A node of a schema: a constraint, with the nodes below it. -/
abbrev Node := Tree Constraint

/-- What stands below a node that has children. -/
inductive Children where
  | fields (members : List Node)
  | element (item : Node)

/-- The tree of a constraint above some children, or none. -/
def Children.under (children? : Option Children) (c : Constraint) : Node :=
  match children? with
  | none => .leaf c
  | some (.fields members) => .fields c members
  | some (.element item) => .element c item

namespace Node

instance : Inhabited Node := ⟨.leaf (.new "")⟩

/-- The name of a node. -/
def id (n : Node) : String := n.label.id

/-- The children of a node, if it has any. -/
def children? : Node → Option Children
  | .leaf _ => none
  | .fields _ members => some (.fields members)
  | .element _ item => some (.element item)

/-- The type that a node is checked against: the declared one, or else the one
that its children imply. Only a node with neither has none. -/
def effectiveType? (n : Node) : Option DataType :=
  n.label.type? <|>
    match n with
    | .leaf _ => none
    | .fields .. => some .object
    | .element .. => some .array

/-! ## Building a node -/

/-- A node that asks for nothing. -/
def new (id : String) : Node := .leaf (.new id)

/-- A node without a segment of its own, for the items of an array. -/
def elementSchema : Node := new ""

/-- Sets the type of a node. -/
def typed (n : Node) (t : DataType) : Node := n.mapTop ({ · with type? := some t })

/-- Sets when a blank value is a failure. -/
def require (n : Node) (r : Required) : Node := n.mapTop ({ · with required? := some r })

/-- Adds a rule to a node. -/
def rule (n : Node) (call : Call) : Node :=
  n.mapTop fun c => { c with rules := c.rules ++ [call] }

/-- Puts member nodes below a node, in place of what was there. -/
def withFields (n : Node) (members : List Node) : Node := .fields n.label members

/-- Puts an item node below a node, in place of what was there. -/
def withElement (n : Node) (item : Node) : Node := .element n.label item

end Node

end ConstraintTree

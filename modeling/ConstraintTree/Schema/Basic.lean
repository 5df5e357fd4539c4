import ConstraintTree.Schema.Node

/-!
# Well-formed schemas

Not every forest of nodes is a schema. Siblings need ids that can be addressed
and told apart, and every node needs a type or children. The first violation on
a walk from top to bottom and from left to right is the error, told at its
place in the schema, where `*` stands for the items of an array.
-/

namespace ConstraintTree

/-- Why a validator cannot be built, and where in the schema. -/
inductive ConfigurationError where
  | missingTypeOrChildren (path : String)
  | missingId (path : String)
  | separatorInId (id path : String)
  | duplicateId (id path : String)
  | unknownFunction (function path : String)
  deriving DecidableEq, Repr

namespace ConfigurationError

/-- The place in the schema that an error is about. -/
def path : ConfigurationError → String
  | .missingTypeOrChildren path => path
  | .missingId path => path
  | .separatorInId _ path => path
  | .duplicateId _ path => path
  | .unknownFunction _ path => path

/-- What an error says. -/
def message : ConfigurationError → String
  | .missingTypeOrChildren path =>
    "constraint node `" ++ path ++ "` must declare a type or children"
  | .missingId path => "constraint node at `" ++ path ++ "` has an empty id"
  | .separatorInId id path =>
    "constraint id `" ++ id ++ "` at `" ++ path ++ "` must not contain `.`"
  | .duplicateId id path => "duplicate constraint id `" ++ id ++ "` at `" ++ path ++ "`"
  | .unknownFunction function path =>
    "function `" ++ function ++ "` referenced by `" ++ path ++ "` is not registered"

end ConfigurationError

namespace Schema

/-- The segment of an item node in a schema path. -/
def elementSegment : String := "*"

/-- What is wrong with the id of a node at `path`, given the ids before it. -/
def idError? (before : List String) (id path : String) : Option ConfigurationError :=
  if id = "" then some (.missingId path)
  else if '.' ∈ id.toList then some (.separatorInId id path)
  else if id ∈ before then some (.duplicateId id path)
  else none

mutual

/-- The first violation in the node at `path`, its own id apart. -/
def nodeError? (path : String) : Node → Option ConfigurationError
  | .leaf c => if c.type?.isNone then some (.missingTypeOrChildren path) else none
  | .fields _ members => siblingsError? path [] members
  | .element _ item => nodeError? (Path.join path elementSegment) item

/-- The first violation in siblings below `parent`, given the ids before them. -/
def siblingsError? (parent : String) (before : List String) :
    List Node → Option ConfigurationError
  | [] => none
  | n :: ns =>
    let path := Path.join parent n.label.id
    idError? before n.label.id path
      <|> nodeError? path n
      <|> siblingsError? parent (before ++ [n.label.id]) ns

end

end Schema

/-- A forest of nodes without violations. -/
structure Schema where
  nodes : List Node
  wellFormed : Schema.siblingsError? "" [] nodes = none

namespace Schema

/-- The schema of some root nodes, or the first violation. -/
def new (nodes : List Node) : Except ConfigurationError Schema :=
  match h : siblingsError? "" [] nodes with
  | none => .ok ⟨nodes, h⟩
  | some e => .error e

end Schema

end ConstraintTree

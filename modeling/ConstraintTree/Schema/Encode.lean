import ConstraintTree.Schema.Node

/-!
# Writing a schema down

A node is written as an object with a member for each thing that it says. What
is at its default is left out: an empty id, empty lists of rules and arguments,
and whatever is absent. Two things look like defaults and are kept, because
they are not: an empty list of member nodes, and a `required` that is false.

Members are listed by ascending key, which is the order of an object.
-/

namespace ConstraintTree

namespace Json

/-- A member that is there if there is a value for it. -/
def memberOf (key : String) (value? : Option Json) : List (String × Json) :=
  match value? with
  | some v => [(key, v)]
  | none => []

/-- A list member that is left out if it is empty. -/
def memberOfList (key : String) (items : List Json) : List (String × Json) :=
  if items.isEmpty then [] else [(key, .arr items)]

end Json

/-- Writes a type. -/
def DataType.toJson (t : DataType) : Json := .str t.name

/-- Writes a call, without what it does not have. -/
def Call.toJson (c : Call) : Json :=
  .object (Json.memberOfList "arguments" (c.arguments.map Argument.toJson)
    ++ [("function", .str c.function)]
    ++ Json.memberOf "message" (c.message?.map .str))

/-- Writes a `required`. -/
def Required.toJson : Required → Json
  | .flag b => .bool b
  | .message template => .str template
  | .when call => call.toJson

/-- A constraint together with what is written for the children of its node. -/
def Constraint.toJson (c : Constraint) (children? : Option Json) : Json :=
  .object (Json.memberOf "children" children?
    ++ (if c.id = "" then [] else [("id", .str c.id)])
    ++ Json.memberOf "required" (c.required?.map Required.toJson)
    ++ Json.memberOf "type" (c.type?.map DataType.toJson)
    ++ Json.memberOfList "validations" (c.rules.map Call.toJson))

namespace Node

mutual

/-- Writes a node. -/
def toJson : Node → Json
  | .leaf c => c.toJson none
  | .fields c members => c.toJson (some (.arr (listToJson members)))
  | .element c item => c.toJson (some (toJson item))

/-- Writes each of some nodes. -/
def listToJson : List Node → List Json
  | [] => []
  | n :: ns => toJson n :: listToJson ns

end

end Node

/-- Member nodes are written as a list, an item node as that node. -/
def Children.toJson : Children → Json
  | .fields members => .arr (Node.listToJson members)
  | .element item => item.toJson

end ConstraintTree

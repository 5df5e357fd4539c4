import ConstraintTree.Schema.Node

/-!
# Reading a schema

A node or a call is read from an object, in which keys that mean nothing are
passed over, or from an array that has the same fields in a fixed order and may
leave off those at its end. A field that is absent is at its default. Where
absence has a meaning of its own, null is read as absence too.

What can be several things is tried in a fixed order. So an array of children
is a list of member nodes if every item of it is a node, and otherwise it may
still be one item node, given by its fields in order.

The functions that read nodes recurse on the value itself: the children are
read where they stand, and never looked up first.
-/

namespace ConstraintTree

namespace Json

/-- Reads a field for which null is the same as absence. -/
def optional {α : Type} (read : Json → Option α) : Option Json → Option (Option α)
  | none => some none
  | some .null => some none
  | some v => (read v).map some

/-- Reads a list that is empty if it is absent. -/
def listOr {α : Type} (read : Json → Option α) : Option Json → Option (List α)
  | none => some []
  | some (.arr xs) => xs.mapM read
  | some _ => none

/-- The member with one of two keys, if there is one. Both together are refused. -/
def either? (members : Members Json none) (key other : String) : Option (Option Json) :=
  match members.lookup key, members.lookup other with
  | some _, some _ => none
  | some v, none => some (some v)
  | none, v => some v

end Json

/-- A type is read from its name, or from an object whose one key is the name
and whose value is null. -/
def DataType.ofJson? : Json → Option DataType
  | .str name => ofName? name
  | .obj (.cons name .null _ .nil) => ofName? name
  | _ => none

namespace Call

/-- Reads a call from its fields, where only the function has to be there. -/
def ofFields? (function arguments message : Option Json) : Option Call := do
  let function ← (← function).str?
  let arguments ← Json.listOr (some ∘ Argument.ofJson) arguments
  let message? ← Json.optional Json.str? message
  return ⟨function, arguments, message?⟩

/-- Reads a call. Its function and its arguments have a short key each. -/
def ofJson? : Json → Option Call
  | .obj ms => do
    ofFields? (← Json.either? ms "function" "fn") (← Json.either? ms "arguments" "args")
      (ms.lookup "message")
  | .arr xs => if xs.length ≤ 3 then ofFields? xs[0]? xs[1]? xs[2]? else none
  | _ => none

end Call

/-- Reads a `required`: a truth value, a message or a call. -/
def Required.ofJson? : Json → Option Required
  | .bool b => some (.flag b)
  | .str template => some (.message template)
  | v => (Call.ofJson? v).map .when

/-- Reads a constraint from its fields, each of which may be absent. -/
def Constraint.ofFields? (id type required rules : Option Json) : Option Constraint := do
  let id ← match id with
    | none => some ""
    | some v => v.str?
  let type? ← Json.optional DataType.ofJson? type
  let required? ← Json.optional Required.ofJson? required
  let rules ← Json.listOr Call.ofJson? rules
  return ⟨id, type?, required?, rules⟩

namespace Node

/-- A node from the members of an object, given its children. -/
def ofMembers? (ms : Members Json none) (children : Option (Option Children)) :
    Option Node := do
  let c ← Constraint.ofFields? (ms.lookup "id") (ms.lookup "type") (ms.lookup "required")
    (ms.lookup "validations")
  return Children.under (← children) c

/-- A node from fields in order, given its children. -/
def ofItems? (xs : List Json) (children : Option (Option Children)) : Option Node :=
  if xs.length ≤ 5 then do
    let c ← Constraint.ofFields? xs[0]? xs[1]? xs[2]? xs[3]?
    return Children.under (← children) c
  else
    none

mutual

/-- Reads a node. -/
def ofJson? : Json → Option Node
  | .obj ms => ofMembers? ms (childrenMember? ms)
  | .arr xs => ofItems? xs (childrenItem? xs)
  | _ => none

/-- Reads a list of nodes, all of which have to be well formed. -/
def listOfJson? : List Json → Option (List Node)
  | [] => some []
  | x :: xs => do
    let n ← ofJson? x
    let ns ← listOfJson? xs
    return n :: ns

/-- Reads the children of a node, for which null is the same as absence. -/
def childrenOfJson? : Json → Option (Option Children)
  | .null => some none
  | .arr xs =>
    ((listOfJson? xs).map (some ∘ Children.fields))
      <|> ((ofItems? xs (childrenItem? xs)).map (some ∘ Children.element))
  | .obj ms => (ofMembers? ms (childrenMember? ms)).map (some ∘ Children.element)
  | _ => none

/-- Reads the children among the members of an object. -/
def childrenMember? {b : Option String} : Members Json b → Option (Option Children)
  | .nil => some none
  | .cons key v _ ms => if key = "children" then childrenOfJson? v else childrenMember? ms

/-- Reads the children among fields in order, of which they are the fifth. -/
def childrenItem? : List Json → Option (Option Children)
  | [_, _, _, _, v] => childrenOfJson? v
  | _ => some none

end

end Node

/-- Reads children. `null` stands for none, so it is not read as any. -/
def Children.ofJson? (v : Json) : Option Children := (Node.childrenOfJson? v).join

end ConstraintTree

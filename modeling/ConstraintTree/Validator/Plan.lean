import ConstraintTree.Wording
import ConstraintTree.Registry.Basic
import ConstraintTree.Report

/-!
# Plans

A plan is a schema made ready to run. It is a tree of the same shape, in which
every call is bound to its function and the type to check against is worked out
beforehand. So an unknown name is an error before there is any data, and running a
plan looks nothing up.

A node says at most one thing about its value: that the type does not fit, or
that a blank value is required, or that a rule does not hold. A node that has
something to say hides everything below it. What a node says is a wording that
does not depend on where the value stands; only a finding puts it at a place.
-/

namespace ConstraintTree

/-- A call with the function that its name stands for. -/
structure Bound where
  call : Call
  function : Function

namespace Bound

/-- Looks the function of a call up. `path` is where the call stands in the schema. -/
def new (r : Registry) (path : String) (call : Call) : Except ConfigurationError Bound :=
  match r.get? call.function with
  | some f => .ok ⟨call, f⟩
  | none => .error (.unknownFunction call.function path)

/-- What a call comes out as. -/
def evaluate (b : Bound) (root : Json) (target : String) : Resolved :=
  b.call.evaluate b.function root target

end Bound

/-- When a blank value is a failure, with its call bound. -/
inductive RequiredCheck where
  | always
  | message (template : String)
  | when (condition : Bound)

namespace RequiredCheck

/-- Never asking for a value is the same as not saying anything. -/
def new (r : Registry) (path : String) :
    Option Required → Except ConfigurationError (Option RequiredCheck)
  | none => .ok none
  | some (.flag false) => .ok none
  | some (.flag true) => .ok (some .always)
  | some (.message template) => .ok (some (.message template))
  | some (.when call) => do return some (.when (← Bound.new r path call))

/-- What is said about a blank value at `path`. A condition that comes out as a
text lends its text to the message, unless its call has words of its own. -/
def wording? (check : RequiredCheck) (root : Json) (path : String) : Option Wording :=
  match check with
  | .always => some ⟨none, .required⟩
  | .message template => some ⟨some template, .required⟩
  | .when condition =>
    let outcome := condition.evaluate root path
    if outcome.isTruthy then some ⟨condition.call.message? <|> outcome.text?, .required⟩
    else none

end RequiredCheck

/-- What is asked of a value: a constraint whose calls have their functions with them. -/
structure Check where
  id : String
  declared? : Option DataType
  /-- The declared type, or the one that the children imply. -/
  expected : DataType
  required? : Option RequiredCheck
  rules : List Bound

/-- The check of the node at `path` with the given type to check against. -/
def Check.new (r : Registry) (path : String) (c : Constraint) (expected? : Option DataType) :
    Except ConfigurationError Check := do
  let expected ← match expected? with
    | some t => .ok t
    | none => .error (.missingTypeOrChildren path)
  let required? ← RequiredCheck.new r path c.required?
  let rules ← c.rules.mapM (Bound.new r path)
  return ⟨c.id, c.type?, expected, required?, rules⟩

/-- A node that is ready to run: a check, with the plans below it. -/
abbrev Plan := Tree Check

namespace Plan

mutual

/-- The plan of the node at `path`. Calls are bound from top to bottom. -/
def compile (r : Registry) (path : String) : Node → Except ConfigurationError Plan
  | .leaf c => do
    let check ← Check.new r path c (Node.effectiveType? (.leaf c))
    return .leaf check
  | .fields c members => do
    let check ← Check.new r path c (Node.effectiveType? (.fields c members))
    let plans ← compileAll r path members
    return .fields check plans
  | .element c item => do
    let check ← Check.new r path c (Node.effectiveType? (.element c item))
    let plan ← compile r (Path.join path Schema.elementSegment) item
    return .element check plan

/-- The plans of siblings below `parent`. -/
def compileAll (r : Registry) (parent : String) :
    List Node → Except ConfigurationError (List Plan)
  | [] => .ok []
  | n :: ns => do
    let plan ← compile r (Path.join parent n.label.id) n
    let plans ← compileAll r parent ns
    return plan :: plans

end

/-! ## What a node says about its value -/

/-- The kinds that the children of a node let pass, whatever its type. -/
def childrenAccept : Plan → Kind → Bool
  | .fields .., .object => true
  | .element .., .object => true
  | .element .., .array => true
  | _, _ => false

/-- The kind of a value that does not fit the type. A missing value fits. -/
def mismatch? (p : Plan) (value : Option Json) : Option Kind :=
  if p.label.declared? = some .any ∨ value.isNone then none
  else if p.childrenAccept (Kind.of value) ∨ p.label.expected.accepts (Kind.of value) then none
  else some (Kind.of value)

/-- What the first rule that does not hold says. -/
def brokenRule? (rules : List Bound) (root : Json) (path : String) : Option Wording :=
  (rules.find? fun b => !(b.evaluate root path).isTruthy).map fun b =>
    ⟨b.call.message?, .rule b.call.function⟩

/-- The one thing that a node says about the value at `path`: first its type,
then, for a blank value, that it is required, and otherwise its rules. A type
that is not declared is told as `object`. -/
def wording? (p : Plan) (root : Json) (path : String) : Option Wording :=
  let value := root.get? path
  match p.mismatch? value with
  | some actual => some ⟨none, .typeMismatch (p.label.declared?.getD .object) actual⟩
  | none =>
    if isBlank value then p.label.required?.bind (·.wording? root path)
    else brokenRule? p.label.rules root path

end Plan

/-- Something that is said about a place. -/
structure Finding where
  target : String
  wording : Wording

/-- The message of a finding, in words. -/
def Finding.message (f : Finding) : Message := ⟨f.target, f.wording.text f.target⟩

namespace Plan

mutual

/-- What a plan finds at `path` and below. Members and items are visited in
order, and only below a node that has nothing to say. -/
def findings (root : Json) (path : String) : Plan → List Finding
  | .leaf c =>
    match wording? (.leaf c) root path with
    | some w => [⟨path, w⟩]
    | none => []
  | .fields c members =>
    match wording? (.fields c members) root path with
    | some w => [⟨path, w⟩]
    | none => memberFindings root path members
  | .element c item =>
    match wording? (.element c item) root path with
    | some w => [⟨path, w⟩]
    | none =>
      match root.get? path with
      | some (.arr xs) =>
        (List.range xs.length).flatMap fun i => findings root (Path.item path i) item
      | _ => []

/-- What siblings below `parent` find. -/
def memberFindings (root : Json) (parent : String) : List Plan → List Finding
  | [] => []
  | p :: ps => findings root (Path.join parent p.label.id) p ++ memberFindings root parent ps

end

end Plan

end ConstraintTree

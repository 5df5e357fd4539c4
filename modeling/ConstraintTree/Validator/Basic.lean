import ConstraintTree.Registry.Builtin
import ConstraintTree.Validator.Plan

/-!
# Validators

A validator is a schema that is well formed, the functions that it may call and
the plan that was made of both. All that can be wrong with a schema is found
when a validator is built. After that, validating is a function of the
data, and says everything that it finds in the order of the schema.
-/

namespace ConstraintTree

/-- A schema with its functions and its plan. -/
structure Validator where
  schema : Schema
  /-- The functions of the caller over those that are always there. -/
  registry : Registry
  plan : List Plan

namespace Validator

/-- Builds a validator from root nodes and the functions of the caller. -/
def new (nodes : List Node) (caller : Registry) : Except ConfigurationError Validator := do
  let schema ← Schema.new nodes
  let registry := Registry.builtin.merge caller
  let plan ← Plan.compileAll registry "" schema.nodes
  return ⟨schema, registry, plan⟩

/-- The nodes of the schema. -/
def nodes (v : Validator) : List Node := v.schema.nodes

/-- What is found in a document, in the order of the walk. -/
def findings (v : Validator) (data : Json) : List Finding :=
  Plan.memberFindings data "" v.plan

/-- The messages about a document. -/
def report (v : Validator) (data : Json) : Report := ⟨(v.findings data).map Finding.message⟩

/-- Succeeds on a valid document and reports on any other. -/
def validate (v : Validator) (data : Json) : Except Report Unit := (v.report data).toExcept ()

/-- Whether there is nothing to say about a document. -/
def isValid (v : Validator) (data : Json) : Bool := (v.report data).isEmpty

end Validator

/-- Root nodes and functions of a caller, gathered step by step. -/
structure Builder where
  nodes : List Node
  registry : Registry

namespace Builder

/-- A builder before the first step. -/
def empty : Builder := ⟨[], .empty⟩

/-- Adds a node after those that are there. -/
def node (b : Builder) (n : Node) : Builder := { b with nodes := b.nodes ++ [n] }

/-- Adds nodes after those that are there, in order. -/
def nodesOf (b : Builder) (ns : List Node) : Builder := { b with nodes := b.nodes ++ ns }

/-- Registers a function, in place of one of the same name. -/
def function (b : Builder) (name : String) (f : Function) : Builder :=
  { b with registry := b.registry.register name f }

/-- Lays a whole registry over what is there. -/
def overlay (b : Builder) (r : Registry) : Builder := { b with registry := b.registry.merge r }

/-- Makes a validator of what has been gathered. -/
def build (b : Builder) : Except ConfigurationError Validator :=
  Validator.new b.nodes b.registry

end Builder

end ConstraintTree

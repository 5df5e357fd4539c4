import ConstraintTree.Schema.DataType

/-!
# Wording

A constraint that fails says one thing, in the words of its author or in the
default words for what went wrong. The author's words are a template, in which
every `$prop` stands for the path of the failing value. A path that comes in
this way is not searched again.

So what is said splits into a `Wording`, which does not know the place, and its
text at a place.
-/

namespace ConstraintTree

namespace Template

/-- The text that stands for the path. -/
def placeholder : List Char := ['$', 'p', 'r', 'o', 'p']

/-- Whether a placeholder begins anywhere in a text. -/
def hasPlaceholder : List Char → Bool
  | c :: rest => placeholder.isPrefixOf (c :: rest) || hasPlaceholder rest
  | [] => false

/-- Replaces every `$prop` of a template, from left to right. -/
def fill (path : List Char) : List Char → List Char
  | '$' :: 'p' :: 'r' :: 'o' :: 'p' :: rest => path ++ fill path rest
  | c :: rest => c :: fill path rest
  | [] => []

/-- The template with the path in it, or as it is if it has no place for one. -/
def render (template path : String) : String :=
  if hasPlaceholder template.toList then String.ofList (fill path.toList template.toList)
  else template

end Template

/-- What went wrong at a place. -/
inductive Failure where
  | typeMismatch (expected : DataType) (actual : Kind)
  | required
  | rule (function : String)
  deriving DecidableEq, Repr

namespace Failure

/-- A short stable name. -/
def code : Failure → String
  | .typeMismatch .. => "type_mismatch"
  | .required => "required"
  | .rule _ => "rule"

/-- What is said where the schema gives no message. -/
def defaultText (failure : Failure) (path : String) : String :=
  match failure with
  | .typeMismatch expected actual =>
    path ++ " is not of type " ++ expected.name ++ " (got " ++ actual.name ++ ")"
  | .required => path ++ " is required"
  | .rule function => path ++ " is invalid (" ++ function ++ ")"

end Failure

/-- What is said about a failure: a template, or the default words. -/
structure Wording where
  template? : Option String
  failure : Failure
  deriving DecidableEq

/-- A wording in words, about the value at a path. -/
def Wording.text (w : Wording) (path : String) : String :=
  match w.template? with
  | some template => Template.render template path
  | none => w.failure.defaultText path

end ConstraintTree

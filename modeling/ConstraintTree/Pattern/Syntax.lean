/-!
# The syntax of patterns

What a pattern says before anything is made of it: which flags it sets where,
which classes it spells and how it nests.
-/

namespace ConstraintTree

namespace Pattern

/-- What can be switched inside a pattern. -/
inductive Flag where
  | ignoreCase
  | multiLine
  | dotMatchesLineFeed
  | swapGreed
  | unicode
  | crlf
  | ignoreBlanks
  deriving DecidableEq

/-- A flag is switched on or off. -/
structure Switch where
  flag : Flag
  on : Bool

/-- The last word of some switches on a flag that starts at `value`. -/
def Switch.apply (switches : List Switch) (flag : Flag) (value : Bool) : Bool :=
  match switches.find? (·.flag = flag) with
  | some s => s.on
  | none => value

/-- A character that stands for itself. An escape of exactly two hexadecimal
digits also counts as a byte. -/
structure Literal where
  char : Char
  isByte : Bool

/-- Conditions on a place in a text. -/
inductive Assertion where
  | lineStart
  | lineEnd
  | textStart
  | textEnd
  | wordBoundary
  | notWordBoundary
  | wordStart
  | wordEnd
  | wordStartHalf
  | wordEndHalf

/-- The classes that have an escape of one letter. -/
inductive Shorthand where
  | digit
  | space
  | word

/-- How a class is asked for by its properties. -/
inductive PropertyQuery where
  | named (name : String)
  | valued (property value : String)

/-- A class that is written as an escape. -/
inductive ClassEscape where
  | shorthand (kind : Shorthand) (negated : Bool)
  | property (query : PropertyQuery) (negated : Bool)

/-- How two operands of a class are combined. -/
inductive ClassOperator where
  | intersection
  | difference
  | symmetricDifference

/-- What stands between the brackets of a class. -/
inductive ClassBody where
  | empty
  | literal (l : Literal)
  | range (first last : Literal)
  /-- A class by its POSIX name. -/
  | posix (name : String) (negated : Bool)
  | escape (e : ClassEscape)
  | bracket (negated : Bool) (body : ClassBody)
  | union (items : List ClassBody)
  | combine (op : ClassOperator) (left right : ClassBody)

/-- A pattern as it is written. -/
inductive Syntax where
  | empty
  /-- Switches that hold up to the end of the group. -/
  | switches (changes : List Switch)
  | literal (l : Literal)
  | dot
  | assertion (a : Assertion)
  | escape (e : ClassEscape)
  | bracket (negated : Bool) (body : ClassBody)
  /-- A repetition, with or without the mark that makes it reluctant. -/
  | repetition (low : Nat) (high : Option Nat) (reluctant : Bool) (sub : Syntax)
  | group (captures : Bool) (changes : List Switch) (sub : Syntax)
  | concat (items : List Syntax)
  | alternation (items : List Syntax)

/-! ## Nesting -/

mutual

/-- How deep a class nests. -/
def ClassBody.depth : ClassBody → Nat
  | .bracket _ body => body.depth + 1
  | .union items => ClassBody.depthOf items + 1
  | .combine _ left right => max left.depth right.depth + 1
  | _ => 0

/-- How deep the deepest of some items nests. -/
def ClassBody.depthOf : List ClassBody → Nat
  | [] => 0
  | b :: bs => max b.depth (ClassBody.depthOf bs)

end

mutual

/-- How deep a pattern nests. -/
def Syntax.depth : Syntax → Nat
  | .bracket _ body => body.depth + 1
  | .repetition _ _ _ sub => sub.depth + 1
  | .group _ _ sub => sub.depth + 1
  | .concat items => Syntax.depthOf items + 1
  | .alternation items => Syntax.depthOf items + 1
  | _ => 0

/-- How deep the deepest of some pieces nests. -/
def Syntax.depthOf : List Syntax → Nat
  | [] => 0
  | s :: ss => max s.depth (Syntax.depthOf ss)

end

/-- The deepest nesting that is accepted. -/
def maxDepth : Nat := 250

end Pattern

end ConstraintTree

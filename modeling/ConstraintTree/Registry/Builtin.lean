import ConstraintTree.Json.Kind
import ConstraintTree.Pattern.Basic
import ConstraintTree.Registry.Basic

/-!
# The functions that are always there

Each is a predicate on its arguments. An argument that is missing or of the
wrong shape makes a predicate false, and never an error, so that a mistyped
value shows up as a message about that value. The two negated predicates are
true where their positive ones are false, missing arguments included.

Numbers are compared as floats, and equality of two numbers goes by their
values. Inside arrays and objects numbers are compared as they stand.
-/

namespace ConstraintTree

namespace Json

/-- Equality of values: numbers by value, everything else by structure. -/
def equalValue (a b : Json) : Bool :=
  match a, b with
  | .num x, .num y => x.toBinary64 == y.toBinary64
  | a, b => a == b

/-- The characters of a string or the items of an array, counted. Whatever fits into
memory has a count of 64 bits. -/
def length? : Json → Option UInt64
  | .str s => some (.ofNat s.length)
  | .arr xs => some (.ofNat xs.length)
  | _ => none

end Json

namespace Builtin

/-- Whether the first argument is blank. -/
def isEmpty (args : Arguments) : Bool := isBlank (args.get? 0)

/-- Whether the first argument is not blank. -/
def isNotEmpty (args : Arguments) : Bool := !isEmpty args

/-- Whether the first two arguments are equal by value. -/
def equals (args : Arguments) : Bool :=
  match args.get? 0, args.get? 1 with
  | some a, some b => a.equalValue b
  | _, _ => false

/-- Whether the first two arguments are not equal by value. -/
def notEquals (args : Arguments) : Bool := !equals args

/-- Compares the length of the first argument, as a float, with the second. -/
def compareLength (cmp : Binary64 → Binary64 → Bool) (args : Arguments) : Bool :=
  match (args.get? 0).bind Json.length?, args.number? 1 with
  | some length, some bound => cmp (.ofWord length) bound
  | _, _ => false

/-- Whether the first argument is as long as the second says, or longer. -/
def lengthAtLeast : Arguments → Bool := compareLength fun length bound => bound.le length

/-- Whether the first argument is as long as the second says, or shorter. -/
def lengthAtMost : Arguments → Bool := compareLength fun length bound => length.le bound

/-- Compares two arguments as floats. -/
def compareNumber (cmp : Binary64 → Binary64 → Bool) (args : Arguments) : Bool :=
  match args.number? 0, args.number? 1 with
  | some n, some bound => cmp n bound
  | _, _ => false

/-- Whether the first argument is no less than the second. -/
def minimum : Arguments → Bool := compareNumber fun n bound => bound.le n

/-- Whether the first argument is no more than the second. -/
def maximum : Arguments → Bool := compareNumber fun n bound => n.le bound

/-- Whether the second argument, as a pattern, matches in the first. The cache
afterwards is kept for the next call. -/
def matchesWith {e : PatternEngine} (cache : PatternCache e) (args : Arguments) :
    Bool × PatternCache e :=
  match args.str? 0, args.str? 1 with
  | some text, some source =>
    let (answer, cache) := cache.isMatch text source
    (answer.getD false, cache)
  | _, _ => (false, cache)

/-- The same, asked of an engine that has compiled nothing yet. -/
def matchesBy (e : PatternEngine) (args : Arguments) : Bool :=
  (matchesWith (.empty : PatternCache e) args).1

/-- Whether the second argument, as a pattern, matches in the first. -/
def «matches» : Arguments → Bool := matchesBy Pattern.engine

/-- Whether the first argument is equal by value to an item of the second. -/
def oneOf (args : Arguments) : Bool :=
  match args.get? 0, args.array? 1 with
  | some value, some options => options.any value.equalValue
  | _, _ => false

/-- The functions that are always there, under their names. -/
def table : List (String × (Arguments → Bool)) :=
  [ ("isEmpty", isEmpty),
    ("isNotEmpty", isNotEmpty),
    ("equals", equals),
    ("notEquals", notEquals),
    ("lengthAtLeast", lengthAtLeast),
    ("lengthAtMost", lengthAtMost),
    ("minimum", minimum),
    ("maximum", maximum),
    ("matches", «matches»),
    ("oneOf", oneOf) ]

end Builtin

/-- The registry of the builtin functions. -/
def Registry.builtin : Registry :=
  .ofList (Builtin.table.map fun (name, f) => (name, fun args => .bool (f args)))

end ConstraintTree

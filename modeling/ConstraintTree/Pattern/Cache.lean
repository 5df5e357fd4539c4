import Std.Data.ExtTreeMap

/-!
# Compiled patterns kept for the next time

A cache holds the patterns that compiled, each under its source and once. What
does not compile is not kept and is tried again the next time.

How a source is compiled, and what a compiled pattern matches, is the business of
an engine. A cache works with any.
-/

namespace ConstraintTree

/-- What compiles the sources of patterns and matches what was compiled. -/
structure PatternEngine where
  /-- What a source compiles to. -/
  Compiled : Type
  compile? : String → Option Compiled
  /-- Whether a compiled pattern matches somewhere in a text. -/
  isMatch : Compiled → String → Bool

/-- Patterns that an engine has compiled, under their sources. -/
structure PatternCache (e : PatternEngine) where
  compiled : Std.ExtTreeMap String e.Compiled

namespace PatternCache

variable {e : PatternEngine}

/-- A cache before the first pattern. -/
def empty : PatternCache e := ⟨∅⟩

/-- How many patterns are kept. -/
def size (c : PatternCache e) : Nat := c.compiled.size

/-- Whether no pattern is kept. -/
def isEmpty (c : PatternCache e) : Bool := c.size == 0

/-- Whether a pattern matches somewhere in a text, with the cache afterwards.
There is no answer for a pattern that does not compile. -/
def isMatch (c : PatternCache e) (text source : String) : Option Bool × PatternCache e :=
  match c.compiled[source]? with
  | some p => (some (e.isMatch p text), c)
  | none =>
    match e.compile? source with
    | some p => (some (e.isMatch p text), ⟨c.compiled.insert source p⟩)
    | none => (none, c)

end PatternCache

end ConstraintTree

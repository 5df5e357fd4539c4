import ConstraintTree.Pattern.Cache
import ConstraintTree.Pattern.Machine
import ConstraintTree.Pattern.Meaning
import ConstraintTree.Pattern.Program
import ConstraintTree.Pattern.Reader

/-!
# Patterns

A regular expression that is ready to be matched. A text is a pattern if it is
well formed, names only classes that there are, and does not grow too large.
-/

namespace ConstraintTree

/-- A compiled pattern. -/
structure Pattern where
  program : Pattern.Program

namespace Pattern

/-- Compiles a pattern, if it is one. -/
def compile? (source : String) : Option Pattern := do
  let s ← Syntax.parse? source
  let (e, _) ← Expr.ofSyntax? .start s
  if e.isWithinLimit then return ⟨.ofExpr e⟩ else none

/-- Whether a pattern matches somewhere in a text. -/
def isMatch (p : Pattern) (text : String) : Bool := p.program.isMatch text

/-- The engine for these patterns. -/
def engine : PatternEngine where
  Compiled := Pattern
  compile? := compile?
  isMatch := isMatch

end Pattern

end ConstraintTree

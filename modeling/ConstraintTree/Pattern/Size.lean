/-!
# How much memory a machine takes

A machine that decides a pattern is made of states. Each takes 32 bytes, each
byte range of a state with a list of them takes 8 more, and each way out of a
state that chooses takes 4 more.
-/

namespace ConstraintTree

namespace Pattern

/-- So many states, and the memory that they take beyond what every state
takes. -/
structure Size where
  states : Nat
  extra : Nat
  deriving DecidableEq

namespace Size

instance : Add Size := ⟨fun a b => ⟨a.states + b.states, a.extra + b.extra⟩⟩

/-- The size of nothing. -/
def zero : Size := ⟨0, 0⟩

/-- The size of so many copies. -/
def times (n : Nat) (a : Size) : Size := ⟨n * a.states, n * a.extra⟩

/-- States with one way out at most. -/
def plain (n : Nat) : Size := ⟨n, 0⟩

/-- A state with a list of byte ranges. -/
def list (ranges : Nat) : Size := ⟨1, 8 * ranges⟩

/-- A state that chooses between so many ways. -/
def choice (ways : Nat) : Size := ⟨1, 4 * ways⟩

/-- The memory that is taken. -/
def memory (a : Size) : Nat := 32 * a.states + a.extra

/-- The most memory that is granted: ten mebibytes. -/
def limit : Nat := 10 * 1024 * 1024

end Size

end Pattern

end ConstraintTree

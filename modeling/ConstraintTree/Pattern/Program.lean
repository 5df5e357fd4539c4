import ConstraintTree.Pattern.Meaning

/-!
# Running a pattern

A pattern becomes a program of instructions, each of which takes a character of
a set, tests a place, chooses between two ways or accepts. It is run on all ways
at once: at each place of the text the instructions that are reachable without a
character are gathered, each at most once, and the next character takes those
that it satisfies one place further. A match may begin anywhere, so the start of
the program is reachable at every place, and running is over as soon as it
accepts.

So the time is at most that of the length of the program times the length of the
text, whatever the pattern.
-/

namespace ConstraintTree

namespace Pattern

/-! ## Places -/

/-- A place in a text: the characters before and after it. -/
structure Place where
  before : Option Char
  after : Option Char

/-- Whether there is a character and words are made of it. -/
def Repertoire.isWord (r : Repertoire) (c : Option Char) : Bool :=
  c.any (shorthandSet .word r).contains

/-- Whether a condition holds at a place. -/
def Look.holds (p : Place) : Look → Bool
  | .start => p.before.isNone
  | .finish => p.after.isNone
  | .startLine => p.before.isNone || p.before = some '\n'
  | .finishLine => p.after.isNone || p.after = some '\n'
  | .startLineCrlf =>
    p.before.isNone || p.before = some '\n' ||
      (p.before = some '\r' && p.after != some '\n')
  | .finishLineCrlf =>
    p.after.isNone || p.after = some '\r' ||
      (p.after = some '\n' && p.before != some '\r')
  | .boundary r => r.isWord p.before != r.isWord p.after
  | .notBoundary r => r.isWord p.before == r.isWord p.after
  | .wordStart r => !r.isWord p.before && r.isWord p.after
  | .wordEnd r => r.isWord p.before && !r.isWord p.after
  | .wordStartHalf r => !r.isWord p.before
  | .wordEndHalf r => !r.isWord p.after

/-! ## Programs -/

/-- An instruction, with the number of the one that comes next. -/
inductive Instruction where
  | take (s : CharSet) (next : Nat)
  | test (l : Look) (next : Nat)
  | choose (left right : Nat)
  | accept

/-- Instructions, and the number of the one to begin with. -/
structure Program where
  instructions : Array Instruction
  start : Nat

namespace Program

/-- Appends an instruction and begins with it. -/
def emit (code : Array Instruction) (i : Instruction) : Program :=
  let number := code.size
  ⟨code.push i, number⟩

/-- How something is put in front of an instruction: it gets the number of that
one and all the instructions so far. -/
abbrev Builder := Nat → Array Instruction → Program

/-- Appends so many copies of something, from the last to the first. -/
def copies (one : Builder) : Nat → Builder
  | 0, next, code => ⟨code, next⟩
  | n + 1, next, code =>
    let ⟨code, next⟩ := one next code
    copies one n next code

/-- Appends so many optional copies, each of which may be the last one. -/
def optionals (one : Builder) (exit : Nat) : Nat → Builder
  | 0, next, code => ⟨code, next⟩
  | n + 1, next, code =>
    let ⟨code, first⟩ := one next code
    let ⟨code, next⟩ := emit code (.choose first exit)
    optionals one exit n next code

/-- A loop: at its head there is the choice to go round once more. The head is needed before
its instruction is known, so its place is taken first. -/
def loop (one : Builder) : Builder := fun exit code =>
  let head := code.size
  let ⟨code, first⟩ := one head (code.push .accept)
  ⟨code.setIfInBounds head (.choose first exit), head⟩

/-- Takes characters in a row. -/
def row (text : List Char) : Builder := fun next code =>
  text.foldr
    (fun c ⟨code, next⟩ => emit code (.take (.singleton c) next))
    ⟨code, next⟩

mutual

/-- Puts what an expression asks for in front of an instruction. -/
def before : Expr → Builder
  | .empty, next, code => ⟨code, next⟩
  | .literal text, next, code => row text next code
  | .set _ s, next, code => emit code (.take s next)
  | .look l, next, code => emit code (.test l next)
  | .capture sub, next, code => before sub next code
  | .repetition low high _ sub, next, code =>
    let ⟨code, next⟩ :=
      match high with
      | none => loop (before sub) next code
      | some high => optionals (before sub) next (high - low) next code
    copies (before sub) low next code
  | .concat items, next, code => beforeAll items next code
  | .alternation branches, next, code => beforeAny branches next code

/-- Puts what expressions ask for in a row in front of an instruction. -/
def beforeAll : List Expr → Builder
  | [], next, code => ⟨code, next⟩
  | e :: es, next, code =>
    let ⟨code, next⟩ := beforeAll es next code
    before e next code

/-- Puts a choice between expressions in front of an instruction. -/
def beforeAny : List Expr → Builder
  | [], next, code => ⟨code, next⟩
  | [e], next, code => before e next code
  | e :: es, next, code =>
    let ⟨code, others⟩ := beforeAny es next code
    let ⟨code, first⟩ := before e next code
    emit code (.choose first others)

end

/-- The program of an expression. -/
def ofExpr (e : Expr) : Program :=
  let ⟨code, last⟩ := emit #[] .accept
  before e last code

/-! ## Running -/

/-- What is reachable at a place: whether the program accepts, and the sets that
wait for a character with what comes after them. `seen` holds for each
instruction the last place, by number, at which it was reached. -/
structure Reach where
  accepted : Bool
  waiting : List (CharSet × Nat)
  seen : Array Nat

/-- Gathers what is reachable from a list of instructions. Each is expanded once
at a place and adds at most two, so fuel of twice their number and the length of
the list is enough. -/
def reach (code : Array Instruction) (p : Place) (number : Nat) :
    Nat → List Nat → Reach → Reach
  | 0, _, r => r
  | _, [], r => r
  | fuel + 1, i :: todo, r =>
    if r.seen.getD i number = number then reach code p number fuel todo r
    else
      let r := { r with seen := r.seen.setIfInBounds i number }
      match code[i]? with
      | some (.take s next) =>
        reach code p number fuel todo { r with waiting := (s, next) :: r.waiting }
      | some (.test l next) =>
        reach code p number fuel (if l.holds p then next :: todo else todo) r
      | some (.choose left right) => reach code p number fuel (left :: right :: todo) r
      | some .accept => { r with accepted := true }
      | none => reach code p number fuel todo r

/-- Runs over the rest of a text. `number` counts places from one. -/
def run (prog : Program) (before : Option Char) (number : Nat) (entries : List Nat)
    (seen : Array Nat) : List Char → Bool
  | [] =>
    let fuel := 2 * prog.instructions.size + entries.length + 2
    (reach prog.instructions ⟨before, none⟩ number fuel (prog.start :: entries)
      ⟨false, [], seen⟩).accepted
  | c :: cs =>
    let fuel := 2 * prog.instructions.size + entries.length + 2
    let r := reach prog.instructions ⟨before, some c⟩ number fuel (prog.start :: entries)
      ⟨false, [], seen⟩
    if r.accepted then true
    else
      let next := r.waiting.filterMap fun (s, next) => if s.contains c then some next else none
      run prog (some c) (number + 1) next r.seen cs

/-- Whether a program accepts somewhere in a text. -/
def isMatch (prog : Program) (text : String) : Bool :=
  run prog none 1 [] (Array.replicate prog.instructions.size 0) text.toList

end Program

end Pattern

end ConstraintTree

import ConstraintTree.Unicode.CharSet

/-!
# What a pattern asks of a text

A pattern asks for characters in a row, for one character of a set, or for a
condition on a place; sequences, choices and repetitions put these together.

Expressions are built by functions that keep them simple: a set of one character
is that character, a sequence has no sequence and no empty part in it, characters
that follow each other are in one row, a choice among sets is a set, and what all
branches of a choice begin with stands once, in front. None of this changes
which texts match, but the size of an expression, on which there is a limit, is
taken after it.
-/

namespace ConstraintTree

namespace Pattern

/-- Which characters count: all of them, or those below 128. -/
inductive Repertoire where
  | unicode
  | ascii
  deriving DecidableEq

/-- A condition on a place between two characters. -/
inductive Look where
  | start
  | finish
  | startLine
  | finishLine
  | startLineCrlf
  | finishLineCrlf
  | boundary (r : Repertoire)
  | notBoundary (r : Repertoire)
  | wordStart (r : Repertoire)
  | wordEnd (r : Repertoire)
  | wordStartHalf (r : Repertoire)
  | wordEndHalf (r : Repertoire)
  deriving DecidableEq

/-- What a pattern asks of a text. -/
inductive Expr where
  | empty
  | literal (text : List Char)
  | set (r : Repertoire) (s : CharSet)
  | look (l : Look)
  | repetition (low : Nat) (high : Option Nat) (greedy : Bool) (sub : Expr)
  | capture (sub : Expr)
  | concat (items : List Expr)
  | alternation (branches : List Expr)

namespace Expr

/-! ## How long a match can be -/

mutual

/-- Whether only the empty text can match. -/
def isEmptyOnly : Expr → Bool
  | .empty => true
  | .literal text => text.isEmpty
  | .set _ _ => false
  | .look _ => true
  | .repetition _ high _ sub => high.isSome && isEmptyOnly sub
  | .capture sub => isEmptyOnly sub
  | .concat items => areEmptyOnly items
  | .alternation branches => areEmptyOnly branches

/-- Whether only the empty text can match expressions in a row. -/
def areEmptyOnly : List Expr → Bool
  | [] => true
  | e :: es => isEmptyOnly e && areEmptyOnly es

end

mutual

/-- The least number of characters that a match can have, as far as lengths say.
There is none if some part of the expression can never match. -/
def shortest? : Expr → Option Nat
  | .empty => some 0
  | .literal text => some text.length
  | .set _ s => if s.isEmpty then none else some 1
  | .look _ => some 0
  | .repetition low _ _ sub => (shortest? sub).map (low * ·)
  | .capture sub => shortest? sub
  | .concat items => sumShortest? items
  | .alternation branches => minShortest? branches

/-- The least number of characters for expressions in a row. -/
def sumShortest? : List Expr → Option Nat
  | [] => some 0
  | e :: es => do return (← shortest? e) + (← sumShortest? es)

/-- The least number of characters for one of some expressions. -/
def minShortest? : List Expr → Option Nat
  | [] => none
  | [e] => shortest? e
  | e :: es => do return min (← shortest? e) (← minShortest? es)

end

/-- Whether every match has a character in it. -/
def consumes (e : Expr) : Bool := (shortest? e).any (0 < ·)

/-! ## Where a match has to be -/

mutual

/-- Whether a condition has to hold where every match begins, or ends. -/
def isBound (l : Look) (atEnd : Bool) : Expr → Bool
  | .look m => l = m
  | .repetition low _ _ sub => low ≠ 0 && isBound l atEnd sub
  | .capture sub => isBound l atEnd sub
  | .concat items => areBound l atEnd items
  | .alternation branches => allBound l atEnd branches
  | _ => false

/-- The same for expressions in a row: as far as they are empty, the condition
may be in any of them. -/
def areBound (l : Look) (atEnd : Bool) : List Expr → Bool
  | [] => false
  | e :: es =>
    if atEnd then areBound l atEnd es || (areEmptyOnly es && isBound l atEnd e)
    else isBound l atEnd e || (isEmptyOnly e && areBound l atEnd es)

/-- The same for a choice: each branch has to ask for the condition. -/
def allBound (l : Look) (atEnd : Bool) : List Expr → Bool
  | [] => true
  | e :: es => isBound l atEnd e && allBound l atEnd es

end

/-! ## Building -/

/-- One character of a set. -/
def ofSet (r : Repertoire) (s : CharSet) : Expr :=
  match s.only? with
  | some c => .literal [c]
  | none => .set (if s.isEmpty then .ascii else r) s

/-- A repetition. What can match only the empty text gains nothing from a second
time. -/
def times (low : Nat) (high : Option Nat) (greedy : Bool) (sub : Expr) : Expr :=
  let (low, high) :=
    if sub.isEmptyOnly then (min low 1, some (min (high.getD 1) 1)) else (low, high)
  if low = 0 ∧ high = some 0 then .empty
  else if low = 1 ∧ high = some 1 then sub
  else .repetition low high greedy sub

/-- The parts that an expression adds to a sequence. -/
def items : Expr → List Expr
  | .empty => []
  | .concat es => es
  | e => [e]

/-- Puts characters that follow each other in one row. -/
def joinLiterals : List Expr → List Expr
  | [] => []
  | e :: es =>
    match e, joinLiterals es with
    | .literal a, .literal b :: rest => .literal (a ++ b) :: rest
    | e, rest => e :: rest

/-- Expressions in a row. -/
def sequence (es : List Expr) : Expr :=
  match joinLiterals (es.flatMap items) with
  | [] => .empty
  | [e] => e
  | es => .concat es

mutual

/-- Whether two expressions are written alike. Two groups that capture are never
alike, because each of them captures for itself. -/
def same : Expr → Expr → Bool
  | .empty, .empty => true
  | .literal a, .literal b => a == b
  | .set r s, .set q t => r = q && s = t
  | .look l, .look m => l = m
  | .repetition low high greedy a, .repetition low' high' greedy' b =>
    low = low' && high = high' && greedy = greedy' && same a b
  | .concat es, .concat ds => sameAll es ds
  | .alternation es, .alternation ds => sameAll es ds
  | _, _ => false

/-- Whether expressions are written alike, each with its counterpart. -/
def sameAll : List Expr → List Expr → Bool
  | [], [] => true
  | e :: es, d :: ds => same e d && sameAll es ds
  | _, _ => false

end

/-- What two sequences begin with alike. -/
def commonFront : List Expr → List Expr → List Expr
  | e :: es, d :: ds => if same e d then e :: commonFront es ds else []
  | _, _ => []

/-- The branches that an expression adds to a choice. -/
def branches : Expr → List Expr
  | .alternation es => es
  | e => [e]

/-- The character that an expression asks for, if it is just one. -/
def char? : Expr → Option CharSet
  | .literal [c] => some (.singleton c)
  | _ => none

/-- The set that an expression asks for a character of. -/
def set? : Expr → Option CharSet
  | .set _ s => some s
  | _ => none

/-- One of some expressions. If all ask for a single character, or all for one of
a set, this is a set. -/
def oneOf (es : List Expr) : Expr :=
  match es.flatMap branches with
  | [e] => e
  | es =>
    match es.mapM char? <|> es.mapM set? with
    | some sets => ofSet .unicode (.unions sets)
    | none => .alternation es

/-- The parts of an expression that is a sequence of several. -/
def concat? : Expr → Option (List Expr)
  | .concat es => some es
  | _ => none

/-- A choice. What all of its branches begin with is taken out in front. The
rests of the branches begin with nothing in common, so once is enough. -/
def choice (es : List Expr) : Expr :=
  match oneOf es with
  | .alternation es =>
    match es.mapM concat? with
    | some (first :: others) =>
      let front := others.foldl commonFront first
      if front.isEmpty then .alternation es
      else
        let rests := (first :: others).map fun ds => sequence (ds.drop front.length)
        sequence (front ++ [oneOf rests])
    | _ => .alternation es
  | e => e

end Expr

end Pattern

end ConstraintTree

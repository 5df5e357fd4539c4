import ConstraintTree.Pattern.Expr
import ConstraintTree.Pattern.Syntax
import ConstraintTree.Unicode.CaseVariant
import ConstraintTree.Unicode.Query

/-!
# The meaning of a pattern

What is left of a pattern when its flags have been carried to where they hold
and its classes have become sets of characters.

Without the flag for characters beyond 128, classes are sets of bytes. Texts are
made of characters, so a class that holds a byte which is no character, as
every negated one does, is refused, and so is the dot.
-/

namespace ConstraintTree

namespace Pattern

/-- The flags that hold at some place of a pattern. -/
structure Flags where
  ignoreCase : Bool
  multiLine : Bool
  dotMatchesLineFeed : Bool
  swapGreed : Bool
  unicode : Bool
  crlf : Bool

namespace Flags

/-- The flags at the start of a pattern: none, but that all characters count. -/
def start : Flags := ⟨false, false, false, false, true, false⟩

/-- The flags after some switches. -/
def apply (f : Flags) (changes : List Switch) : Flags where
  ignoreCase := Switch.apply changes .ignoreCase f.ignoreCase
  multiLine := Switch.apply changes .multiLine f.multiLine
  dotMatchesLineFeed := Switch.apply changes .dotMatchesLineFeed f.dotMatchesLineFeed
  swapGreed := Switch.apply changes .swapGreed f.swapGreed
  unicode := Switch.apply changes .unicode f.unicode
  crlf := Switch.apply changes .crlf f.crlf

/-- The characters that count under some flags. -/
def repertoire (f : Flags) : Repertoire := if f.unicode then .unicode else .ascii

end Flags

/-! ## Sets -/

/-- The ten digits. -/
def asciiDigits : CharSet := .ofRange '0' '9'

/-- The letters below 128, in both cases. -/
def asciiLetters : CharSet := .union (.ofRange 'A' 'Z') (.ofRange 'a' 'z')

/-- The characters below 128 that count as blank. -/
def asciiSpace : CharSet := .union (.ofRange '\t' '\r') (.singleton ' ')

/-- The characters below 128 that words are made of. -/
def asciiWord : CharSet := .unions [asciiLetters, asciiDigits, .singleton '_']

/-- The characters of a class of a POSIX name. -/
def posixSet : String → CharSet
  | "alnum" => asciiLetters.union asciiDigits
  | "alpha" => asciiLetters
  | "ascii" => .ofRanges [(0, 0x7F)]
  | "blank" => .union (.singleton '\t') (.singleton ' ')
  | "cntrl" => .ofRanges [(0, 0x1F), (0x7F, 0x7F)]
  | "digit" => asciiDigits
  | "graph" => .ofRange '!' '~'
  | "lower" => .ofRange 'a' 'z'
  | "print" => .ofRange ' ' '~'
  | "punct" =>
    .unions [.ofRange '!' '/', .ofRange ':' '@', .ofRange '[' '\x60', .ofRange '\x7b' '~']
  | "space" => asciiSpace
  | "upper" => .ofRange 'A' 'Z'
  | "word" => asciiWord
  | "xdigit" => .unions [asciiDigits, .ofRange 'A' 'F', .ofRange 'a' 'f']
  | _ => .empty

/-- The characters that a shorthand stands for. -/
def shorthandSet (kind : Shorthand) : Repertoire → CharSet
  | .unicode =>
    match kind with
    | .digit => CharProperty.decimalDigit
    | .space => CharProperty.whiteSpace
    | .word => CharProperty.word
  | .ascii =>
    match kind with
    | .digit => asciiDigits
    | .space => asciiSpace
    | .word => asciiWord

namespace Flags

/-- Adds the case variants if case is ignored, and only those of letters below
128 where characters beyond do not count. -/
def fold (f : Flags) (s : CharSet) : CharSet :=
  if !f.ignoreCase then s
  else if f.unicode then s.withCaseVariants
  else
    let shifted (first last : Char) (up : Bool) : List (Nat × Nat) :=
      ((s.inter (.ofRange first last)).ranges.toList).map fun (a, b) =>
        if up then (a - 32, b - 32) else (a + 32, b + 32)
    s.union (.ofRanges (shifted 'a' 'z' true ++ shifted 'A' 'Z' false))

/-- Negates a set, which without characters beyond 128 cannot be done. -/
def negate? (f : Flags) (negated : Bool) (s : CharSet) : Option CharSet :=
  if !negated then some s
  else if f.unicode then some s.complement
  else none

/-- A literal in a pattern. A byte beyond 127 is no character. -/
def literal? (f : Flags) (l : Literal) : Option CharSet :=
  if f.unicode then some (f.fold (.singleton l.char))
  else if l.char.toNat < 0x80 then some (f.fold (.singleton l.char))
  else if l.isByte then none
  else some (.singleton l.char)

/-- A literal in a class. -/
def classLiteral? (f : Flags) (l : Literal) : Option Char :=
  if f.unicode ∨ l.char.toNat < 0x80 then some l.char else none

/-- The set that an escape stands for. -/
def escape? (f : Flags) : ClassEscape → Option CharSet
  | .shorthand kind negated => f.negate? negated (shorthandSet kind f.repertoire)
  | .property query negated =>
    if f.unicode then do
      let s ← match query with
        | .named name => UnicodeQuery.named? name
        | .valued property value => UnicodeQuery.valued? property value
      f.negate? negated (f.fold s)
    else
      none

/-- The set of an operator between two sets. -/
def combine (op : ClassOperator) (left right : CharSet) : CharSet :=
  match op with
  | .intersection => left.inter right
  | .difference => left.diff right
  | .symmetricDifference => left.symmDiff right

mutual

/-- The set between the brackets of a class. -/
def body? (f : Flags) : ClassBody → Option CharSet
  | .empty => some .empty
  | .literal l => do return .singleton (← f.classLiteral? l)
  | .range first last => do
    return .ofRange (← f.classLiteral? first) (← f.classLiteral? last)
  | .posix name negated => f.negate? negated (f.fold (posixSet name))
  | .escape e => f.escape? e
  | .bracket negated body => do f.negate? negated (f.fold (← body? f body))
  | .union items => do return .unions (← bodies? f items)
  | .combine op left right => do
    let left ← body? f left
    let right ← body? f right
    return combine op (f.fold left) (f.fold right)

/-- The sets of the items of a class. -/
def bodies? (f : Flags) : List ClassBody → Option (List CharSet)
  | [] => some []
  | b :: bs => do
    let s ← body? f b
    let ss ← bodies? f bs
    return s :: ss

end

/-- The set that the dot stands for: everything, or everything but ends of lines. -/
def dot? (f : Flags) : Option CharSet :=
  if !f.unicode then none
  else if f.dotMatchesLineFeed then some .all
  else if f.crlf then some (CharSet.union (.singleton '\n') (.singleton '\r')).complement
  else some (CharSet.singleton '\n').complement

/-- The condition that an assertion makes under some flags. -/
def look (f : Flags) : Assertion → Look
  | .lineStart =>
    if !f.multiLine then .start else if f.crlf then .startLineCrlf else .startLine
  | .lineEnd =>
    if !f.multiLine then .finish else if f.crlf then .finishLineCrlf else .finishLine
  | .textStart => .start
  | .textEnd => .finish
  | .wordBoundary => .boundary f.repertoire
  | .notWordBoundary => .notBoundary f.repertoire
  | .wordStart => .wordStart f.repertoire
  | .wordEnd => .wordEnd f.repertoire
  | .wordStartHalf => .wordStartHalf f.repertoire
  | .wordEndHalf => .wordEndHalf f.repertoire

end Flags

/-! ## From syntax to meaning -/

namespace Expr

mutual

/-- The meaning of a piece of syntax, and the flags that hold after it. Switches
outlive everything but the group that they stand in. -/
def ofSyntax? (f : Flags) : Syntax → Option (Expr × Flags)
  | .empty => some (.empty, f)
  | .switches changes => some (.empty, f.apply changes)
  | .literal l => do return (.ofSet f.repertoire (← f.literal? l), f)
  | .dot => do return (.ofSet f.repertoire (← f.dot?), f)
  | .assertion a => some (.look (f.look a), f)
  | .escape e => do return (.ofSet f.repertoire (← f.escape? e), f)
  | .bracket negated body => do
    let s ← f.body? body
    return (.ofSet f.repertoire (← f.negate? negated (f.fold s)), f)
  | .repetition low high reluctant sub => do
    let (e, f) ← ofSyntax? f sub
    return (.times low high (reluctant == f.swapGreed) e, f)
  | .group captures changes sub => do
    let (e, _) ← ofSyntax? (f.apply changes) sub
    return (if captures then .capture e else e, f)
  | .concat items => do
    let (es, f) ← ofSyntaxList? f items
    return (.sequence es, f)
  | .alternation items => do
    let (es, f) ← ofSyntaxList? f items
    return (.choice es, f)

/-- The meaning of pieces in a row, each under the flags that hold after the one before it.
-/
def ofSyntaxList? (f : Flags) : List Syntax → Option (List Expr × Flags)
  | [] => some ([], f)
  | s :: ss => do
    let (e, f) ← ofSyntax? f s
    let (es, f) ← ofSyntaxList? f ss
    return (e :: es, f)

end

end Expr

end Pattern

end ConstraintTree

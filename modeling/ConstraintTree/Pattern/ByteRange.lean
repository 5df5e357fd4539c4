import ConstraintTree.Unicode.CharSet

/-!
# Characters as bytes

In a text a character is a row of one to four bytes. The characters of a range
are the rows of a few sequences of byte ranges, which come in ascending order.
Sequences that begin alike make a tree.
-/

namespace ConstraintTree

namespace Pattern

/-- The bytes from a first to a last one. -/
structure ByteRange where
  first : Nat
  last : Nat
  deriving DecidableEq

namespace ByteRange

/-- The bytes of the character with this code. -/
def bytes (code : Nat) : List Nat :=
  if code < 0x80 then [code]
  else if code < 0x800 then [0xC0 + code / 0x40, 0x80 + code % 0x40]
  else if code < 0x10000 then
    [0xE0 + code / 0x1000, 0x80 + code / 0x40 % 0x40, 0x80 + code % 0x40]
  else
    [0xF0 + code / 0x40000, 0x80 + code / 0x1000 % 0x40, 0x80 + code / 0x40 % 0x40,
      0x80 + code % 0x40]

/-- Where a range has to be cut so that its characters have the same number of
bytes and all bytes after the first that differs run over their whole range. -/
def cut? (first last : Nat) : Option Nat :=
  let lengths := [0x80, 0x800, 0x10000].find? fun limit => first < limit && limit ≤ last
  let aligned := [0x40, 0x1000, 0x40000].findSome? fun block =>
    if first / block = last / block then none
    else if first % block ≠ 0 then some (first / block * block + block)
    else if last % block ≠ block - 1 then some (last / block * block)
    else none
  if last < 0x80 then none else lengths <|> aligned

/-- The sequences of byte ranges that a range of characters consists of. A range
is cut a few times at each byte, far less often than the fuel allows. -/
def sequences : Nat → Nat → Nat → List (List ByteRange)
  | 0, _, _ => []
  | fuel + 1, first, last =>
    match cut? first last with
    | some middle => sequences fuel first (middle - 1) ++ sequences fuel middle last
    | none => [((bytes first).zip (bytes last)).map fun (a, b) => ⟨a, b⟩]

/-- The sequences of byte ranges of a set of characters. -/
def ofSet (s : CharSet) : List (List ByteRange) :=
  s.ranges.toList.flatMap fun (first, last) => sequences 64 first last

end ByteRange

/-- Sequences of byte ranges by what they begin with: a range with what may follow
it, and the other ranges beside it. Nothing follows the last range of a
sequence. -/
inductive ByteTree where
  | stop
  | way (r : ByteRange) (below beside : ByteTree)

namespace ByteTree

/-- Adds a sequence at the left. It shares its beginning with its neighbour
only. -/
def insert : List ByteRange → ByteTree → ByteTree
  | [], t => t
  | r :: rs, .stop => .way r (insert rs .stop) .stop
  | r :: rs, .way q below beside =>
    if r = q then .way q (insert rs below) beside
    else .way r (insert rs .stop) (.way q below beside)

/-- The tree of some sequences, which come in ascending order. -/
def ofSequences (sequences : List (List ByteRange)) : ByteTree := sequences.foldr insert .stop

end ByteTree

end Pattern

end ConstraintTree

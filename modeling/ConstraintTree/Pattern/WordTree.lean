import ConstraintTree.Pattern.Size

/-!
# Choices between words

A choice whose branches are all words, as rows of bytes, is a tree of bytes:
words that begin alike share the states of what they begin with. The order of
the words still counts. Where a word ends that others go on from, the ones that
stand before it in the choice are kept apart from those that stand after it, and
each of these chunks has a state of its own.
-/

namespace ConstraintTree

namespace Pattern

namespace WordTree

/-- Cuts a list of words into chunks at the empty ones. -/
def chunks : List (List Nat) → List (List (List Nat))
  | [] => [[]]
  | [] :: words => [] :: chunks words
  | word :: words =>
    match chunks words with
    | chunk :: others => (word :: chunk) :: others
    | [] => [[word]]

/-- Leaves one of the empty words that come first. A second one adds nothing as
long as nothing else stands before it. -/
def dropRepeated : List (List Nat) → List (List Nat)
  | [] :: [] :: words => dropRepeated ([] :: words)
  | words => words

/-- The words of a chunk that begin with some byte, without it. -/
def after (byte : Nat) (words : List (List Nat)) : List (List Nat) :=
  words.filterMap fun
    | first :: rest => if first = byte then some rest else none
    | [] => none

/-- A state with so many bytes, each of which leads on. -/
def state : Nat → Size
  | 0 => .zero
  | 1 => .plain 1
  | ways => .list ways

/-- The states below a place from which words of at most so many bytes go on. -/
def sizeBelow : Nat → List (List Nat) → Size
  | 0, _ => .zero
  | depth + 1, words =>
    let chunks := chunks (dropRepeated words)
    let below (chunk : List (List Nat)) : Size :=
      let bytes := (chunk.filterMap List.head?).eraseDups
      bytes.foldl
        (fun size byte =>
          let rest := after byte chunk
          if rest.all List.isEmpty then size else size + sizeBelow depth rest)
        (state bytes.length)
    let ways := (chunks.filter (!·.isEmpty)).length + (chunks.length - 1)
    chunks.foldl (fun size chunk => size + below chunk) (.choice ways)

/-- The size of a choice between words. -/
def size (words : List (List Nat)) : Size :=
  .plain 1 + sizeBelow ((words.map List.length).foldl max 0) words

end WordTree

end Pattern

end ConstraintTree

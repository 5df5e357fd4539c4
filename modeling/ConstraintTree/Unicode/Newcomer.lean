import ConstraintTree.Unicode.CharProperty

/-!
# The newest characters

The tables of properties are those of version 16 of the standard, and so are the
classes that patterns ask for. But which characters the name of a group may
have, and which ones are shown as they are, goes by version 17 already. It
leaves the characters that there were as they are in this respect, so it is
enough to know the ones that it added.
-/

namespace ConstraintTree

namespace Newcomer

open CharSet

/-- The newest characters. -/
def added : CharSet := .ofTable
  "2191 1 972 1 127 1 3570 15 2 12 1493 1 2772 1 31799 2 2 1 1 1 28 1 21457 16 445 2 54 7 2929 26
   1387 3 8 9 33 2 3172 8 584 44 4 10 20662 25 2 25 286 5 6145 8 1289 22 97 115 16135 3 445 23 15
   17 6095 31 1 22 8 2 4056 1 158 4 341 9 379 4 50 1 3 1 57 1 4 1 28 1 4 1 266 1 47935 6 5986 12
   21762 4298"

/-- Those of them that are letters. -/
def addedAlphabetic : CharSet := .ofTable
  "2191 1 972 1 127 1 39665 2 2 1 1 1 28 1 24910 26 1387 3 50 2 3172 8 584 44 20676 25 2 25 286 5
   6145 8 1289 22 97 115 22733 31 1 22 8 2 53306 6 5986 12 21762 4298"

/-- Those of them that are numerals. -/
def addedNumeric : CharSet := .ofTable
  "73184 10 21002 3"

/-- Those of them that are marks on what comes before. -/
def addedGraphemeExtend : CharSet := .ofTable
  "6863 15 2 12 62478 2 3172 1 1 3 1 1 52092 1 2 1 7 2 5 1"

/-! ## With the newest characters -/

/-- Letters in the wide sense. -/
def alphabetic : CharSet := CharProperty.alphabetic.union addedAlphabetic

/-- Letters and numerals of all kinds. -/
def alphanumeric : CharSet :=
  unions [alphabetic, GeneralCategory.setOf ["Nd", "Nl", "No"], addedNumeric]

/-- Marks that join what comes before them. -/
def graphemeExtend : CharSet := CharProperty.graphemeExtend.union addedGraphemeExtend

/-- Characters that have no look of their own: controls, formats, private and
unassigned ones, all separators but the blank, and the fillers that are
ignored. -/
def invisible : CharSet :=
  union CharProperty.defaultIgnorableCodePoint
    (diff (GeneralCategory.setOf ["Cc", "Cf", "Co", "Cn", "Zl", "Zp", "Zs"])
      (union added (singleton ' ')))

end Newcomer

end ConstraintTree

import ConstraintTree.Unicode.CharProperty
import ConstraintTree.Unicode.Script

/-!
# Where a text may be broken

A text falls into graphemes, words and sentences. For each of these every
character has one class, and rules on the classes of neighbours say where the
text may be broken. Here are the classes, each but that of all other
characters. Most follow from categories and other properties.
-/

namespace ConstraintTree

namespace TextBreak

open CharSet GeneralCategory CharProperty

/-- The characters with some codes. -/
def codes (cs : List Nat) : CharSet := ofRanges (cs.map fun c => (c, c))

/-! ## Graphemes -/

/-- Marks that do not take a place of their own, and what changes an emoji. -/
def graphemeExtenders : CharSet := graphemeExtend.union emojiModifier

/-- Characters that join the one after them, besides the signs of numbers. -/
def prepended : CharSet := .ofTable
  "3406 1 66675 2 525 1 1389 1 1 1 248 1 73 6 700 1 443 1"

/-- Spacing marks that stand apart. -/
def apart : CharSet := .ofTable
  "4139 2 11 1 41 3 2 7 21 1 3 6 2 1 10 3 2500 1 1 2 36886 1 1 1 27810 2"

/-- Characters that a text may be broken around. -/
def control : CharSet :=
  diff (union (setOf ["Cc", "Cf", "Zl", "Zp"]) (inter (setOf ["Cn"]) defaultIgnorableCodePoint))
    (unions [codes [0xA, 0xD, 0x200C, 0x200D], prependedConcatenationMark, graphemeExtenders])

/-- Marks that take a place and belong to what comes before them. -/
def spacingMark : CharSet :=
  diff (union (setOf ["Mc"]) (codes [0xE33, 0xEB3])) (union graphemeExtenders apart)

/-- The syllables of Hangul without a final consonant. -/
def openSyllables : CharSet := codes ((List.range 399).map fun i => 0xAC00 + 28 * i)

/-- The classes for graphemes, by their names. -/
def graphemes : List (List String × CharSet) :=
  [ (["cr"], codes [0xD]),
    (["lf"], codes [0xA]),
    (["control", "cn"], control),
    (["extend", "ex"], graphemeExtenders),
    (["zwj"], codes [0x200D]),
    (["regionalindicator", "ri"], regionalIndicator),
    (["prepend", "pp"], union prependedConcatenationMark prepended),
    (["spacingmark", "sm"], spacingMark),
    (["l"], ofRanges [(0x1100, 0x115F), (0xA960, 0xA97C)]),
    (["v"],
      ofRanges [(0x1160, 0x11A7), (0xD7B0, 0xD7C6), (0x16D63, 0x16D63), (0x16D67, 0x16D6A)]),
    (["t"], ofRanges [(0x11A8, 0x11FF), (0xD7CB, 0xD7FB)]),
    (["lv"], openSyllables),
    (["lvt"], diff (ofRanges [(0xAC00, 0xD7A3)]) openSyllables) ]

/-! ## Words -/

/-- Letters of scripts that are written without blanks, whose words cannot be
told by rules. -/
def unspaced : CharSet := .ofTable
  "3585 48 1 2 12 7 58 2 1 1 1 5 1 24 1 1 1 10 1 2 9 1 2 5 1 1 21 4 288 43 20 1 16 6 4 4 3 1 3 2
   7 3 4 13 12 1 1777 52 35 1 4 1 371 30 2 5 11 44 4 26 86 53 82 1 36664 5 1 10 10 5 97 23 3 1 3
   50 1 1 3 2 2 5 2 1 1 1 24 3 27682 27 37 7"

/-- Signs that count as letters in words. -/
def letterLike : CharSet := .ofTable
  "184 1 521 4 12 6 6 2 5 7 1 1 1 17 602 3 1 1 43 1 104 1 283 1 40952 15 9 2 103 2 976 1"

/-- Signs that stand in front of numbers and belong to them. -/
def numberSigns : CharSet := diff prependedConcatenationMark (codes [0x70F])

/-- Marks, which belong to the word before them. -/
def wordExtend : CharSet :=
  diff (unions [graphemeExtend, setOf ["Mc"], emojiModifier]) (codes [0x200D])

/-- The letters and signs of Katakana. -/
def katakana : CharSet :=
  unions [Script.setOf "Kana", ofRanges [(0x3031, 0x3035)],
    codes [0x309B, 0x309C, 0x30A0, 0x30FC, 0xFF70]]

/-- The letters of Hebrew. -/
def hebrewLetter : CharSet := inter (Script.setOf "Hebr") (setOf ["Lo"])

/-- The letters of all other scripts whose words can be told by rules. -/
def wordLetter : CharSet :=
  diff (union alphabetic letterLike)
    (unions [ideographic, katakana, unspaced, Script.setOf "Hira", wordExtend, hebrewLetter])

/-- Formats, which do not matter for words. -/
def wordFormat : CharSet :=
  diff (setOf ["Cf"])
    (unions [ofRanges [(0x200B, 0x200D)], prependedConcatenationMark, wordExtend])

/-- The classes for words, by their names. -/
def words : List (List String × CharSet) :=
  [ (["cr"], codes [0xD]),
    (["lf"], codes [0xA]),
    (["newline", "nl"], codes [0xB, 0xC, 0x85, 0x2028, 0x2029]),
    (["extend"], wordExtend),
    (["zwj"], codes [0x200D]),
    (["regionalindicator", "ri"], regionalIndicator),
    (["katakana", "ka"], katakana),
    (["hebrewletter", "hl"], hebrewLetter),
    (["aletter", "le"], wordLetter),
    (["numeric", "nu"], unions [decimalDigit, numberSigns, codes [0x66B]]),
    (["extendnumlet", "ex"], union (setOf ["Pc"]) (codes [0x202F])),
    (["midletter", "ml"],
      codes [0x3A, 0xB7, 0x387, 0x55F, 0x5F4, 0x2027, 0xFE13, 0xFE55, 0xFF1A]),
    (["midnumlet", "mb"], codes [0x2E, 0x2018, 0x2019, 0x2024, 0xFE52, 0xFF07, 0xFF0E]),
    (["midnum", "mn"],
      codes [0x2C, 0x3B, 0x37E, 0x589, 0x60C, 0x60D, 0x66C, 0x7F8, 0x2044, 0xFE10, 0xFE14, 0xFE50,
        0xFE54, 0xFF0C, 0xFF1B]),
    (["format", "fo"], wordFormat),
    (["wsegspace"],
      union (codes [0x20, 0x1680, 0x205F, 0x3000])
        (ofRanges [(0x2000, 0x2006), (0x2008, 0x200A)])),
    (["doublequote", "dq"], codes [0x22]),
    (["singlequote", "sq"], codes [0x27]) ]

/-! ## Sentences -/

/-- The letters of Georgian, whose two cases are not those of sentences. -/
def georgianSmall : CharSet := ofRanges [(0x10D0, 0x10FA), (0x10FD, 0x10FF)]

/-- The capital letters of Georgian. -/
def georgianCapital : CharSet := ofRanges [(0x1C90, 0x1CBA), (0x1CBD, 0x1CBF)]

/-- Ends of paragraphs. -/
def sentenceSeparator : CharSet := codes [0x85, 0x2028, 0x2029]

/-- Marks, which do not matter for sentences. -/
def sentenceExtend : CharSet :=
  unions [graphemeExtend, setOf ["Mc"], codes [0x200D]]

/-- Letters in lower case. -/
def sentenceLower : CharSet := diff lowercase (union graphemeExtend georgianSmall)

/-- Letters that a sentence may begin with. -/
def sentenceUpper : CharSet := diff (union uppercase (setOf ["Lt"])) georgianCapital

/-- Full stops, which do not always end a sentence. -/
def fullStops : CharSet := codes [0x2E, 0x2024, 0xFE52, 0xFF0E]

/-- Signs after which a sentence goes on. -/
def sentenceContinue : CharSet := .ofTable
  "44 2 12 2 834 1 478 1 174 2 490 1 4105 1 5 1 2058 2 4076 1 52750 2 1 2 28 2 29 2 2 2 2 1 10 1
   168 2 12 2 72 1"

/-- Quotation marks that are neither opening nor closing. -/
def plainQuotes : CharSet := .ofTable
  "34 1 4 1 10035 6 1695 2 4 3 2 1 116842 3"

/-- The classes for sentences, by their names. -/
def sentences : List (List String × CharSet) :=
  [ (["cr"], codes [0xD]),
    (["lf"], codes [0xA]),
    (["sep", "se"], sentenceSeparator),
    (["extend", "ex"], sentenceExtend),
    (["format", "fo"],
      diff (setOf ["Cf"]) (unions [codes [0x200C, 0x200D], numberSigns, graphemeExtend])),
    (["sp"], diff whiteSpace (union sentenceSeparator (codes [0xA, 0xD]))),
    (["lower", "lo"], sentenceLower),
    (["upper", "up"], sentenceUpper),
    (["oletter", "le"],
      diff (union alphabetic (codes [0x5F3]))
        (unions [sentenceLower, sentenceUpper, sentenceExtend])),
    (["numeric", "nu"], unions [decimalDigit, numberSigns, codes [0x66B, 0x66C]]),
    (["aterm", "at"], fullStops),
    (["sterm", "st"], diff sentenceTerminal fullStops),
    (["scontinue", "sc"], sentenceContinue),
    (["close", "cl"], union (setOf ["Ps", "Pe", "Pi", "Pf"]) plainQuotes) ]

/-- The characters of a class by its name. -/
def ofName? (classes : List (List String × CharSet)) (name : String) : Option CharSet :=
  (classes.find? (·.1.contains name)).map (·.2)

end TextBreak

end ConstraintTree

import ConstraintTree.Unicode.Age
import ConstraintTree.Unicode.TextBreak

/-!
# Asking for characters by name

Names are matched loosely: case, blanks, underscores and dashes do not count,
nor does an `is` in front, nor any character beyond 128. A name alone is that of
a property, a general category or a script, in this order; but three short names
that would be both are those of a category. A name with a value asks for a
category, for a script, by what characters belong to or by what they are used
with, for an age, or for a class of where a text may be broken.
-/

namespace ConstraintTree

namespace UnicodeQuery

/-- Whether a name begins with `is`, and what follows it. -/
def afterIs? : List Char → Option (List Char)
  | a :: b :: rest => if a.toLower = 'i' ∧ b.toLower = 's' then some rest else none
  | _ => none

/-- A name in the form in which names are compared. What is left of `isc` would
be the name of a category, so it keeps its front. -/
def normalize (name : String) : String :=
  let plain (cs : List Char) : String :=
    String.ofList ((cs.filter fun c => c.toNat < 0x80 ∧ c ≠ ' ' ∧ c ≠ '_' ∧ c ≠ '-').map
      Char.toLower)
  match afterIs? name.toList with
  | some rest => if plain rest = "c" then "isc" else plain rest
  | none => plain name.toList

/-- A general category, or one of the sets that are named like one. -/
def category? (name : String) : Option CharSet :=
  match name with
  | "any" => some .all
  | "ascii" => some (.ofRanges [(0, 0x7F)])
  | "assigned" => some (GeneralCategory.setOf ["Cn"]).complement
  | name => GeneralCategory.ofName? name

/-- The set of a name alone, be it of a property, a category or a script. -/
def named? (name : String) : Option CharSet :=
  let name := normalize name
  let property :=
    if ["cf", "sc", "lc"].contains name then none else CharProperty.ofName? name
  property <|> category? name <|> Script.ofName? name

/-- The set of a property with a value. -/
def valued? (property value : String) : Option CharSet :=
  let value := normalize value
  match normalize property with
  | "gc" | "generalcategory" => category? value
  | "sc" | "script" => Script.ofName? value
  | "scx" | "scriptextensions" => Script.extensionOfName? value
  | "age" => Age.ofName? value
  | "gcb" | "graphemeclusterbreak" => TextBreak.ofName? TextBreak.graphemes value
  | "wb" | "wordbreak" => TextBreak.ofName? TextBreak.words value
  | "sb" | "sentencebreak" => TextBreak.ofName? TextBreak.sentences value
  | _ => none

end UnicodeQuery

end ConstraintTree

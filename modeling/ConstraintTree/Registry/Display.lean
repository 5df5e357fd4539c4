import ConstraintTree.Registry.Basic
import ConstraintTree.Unicode.Newcomer

/-!
# Showing a registry

A registry is shown by its names, each between quotes. So that a name can be
told from what stands around it, quotes and backslashes in it are escaped, and
so is every character that cannot be seen on its own: controls, marks that
join what comes before them, all blanks but the ordinary one, and codes that
no character has.
-/

namespace ConstraintTree

namespace Registry

/-- Whether a character is shown as it is. The two small voicing marks of
Katakana have a width of their own and are, though they join what comes before
them. -/
def isVisible (c : Char) : Bool :=
  c = '\uFF9E' || c = '\uFF9F' ||
    (!Newcomer.graphemeExtend.contains c && !Newcomer.invisible.contains c)

/-- A character between quotes. The escape of a code point has as many
hexadecimal digits as it needs. -/
def shownChar (c : Char) : List Char :=
  match c with
  | '\x00' => ['\\', '0']
  | '\t' => ['\\', 't']
  | '\n' => ['\\', 'n']
  | '\r' => ['\\', 'r']
  | '\\' => ['\\', '\\']
  | '"' => ['\\', '"']
  | c =>
    if isVisible c then [c]
    else ['\\', 'u', '\x7b'] ++ Nat.toDigits 16 c.toNat ++ ['\x7d']

/-- A name as it is shown. -/
def shownName (name : String) : String :=
  "\"" ++ String.ofList (name.toList.flatMap shownChar) ++ "\""

/-- A registry as it is shown. -/
def display (r : Registry) : String :=
  "Context \x7b functions: [" ++ ", ".intercalate (r.names.map shownName) ++ "] \x7d"

end Registry

end ConstraintTree

import ConstraintTree.Json.Basic

/-!
# The compact text of a value

No blanks, members by ascending key, numbers by `Number.text`. Inside a string
only the quote, the backslash and the control characters below the blank are
escaped, by their short escape where there is one.
-/

namespace ConstraintTree

namespace Json

/-- The hexadecimal digit for the last four bits of a number. -/
def hexDigit (n : Nat) : Char := Nat.digitChar (n % 16)

/-- One character as it stands inside a string. -/
def escaped (c : Char) : List Char :=
  match c with
  | '"' => ['\\', '"']
  | '\\' => ['\\', '\\']
  | '\n' => ['\\', 'n']
  | '\r' => ['\\', 'r']
  | '\t' => ['\\', 't']
  | '\x08' => ['\\', 'b']
  | '\x0c' => ['\\', 'f']
  | c =>
    if c.toNat < 0x20 then ['\\', 'u', '0', '0', hexDigit (c.toNat / 16), hexDigit c.toNat]
    else [c]

/-- A text in quotation marks. -/
def quoted (s : String) : String :=
  "\"" ++ String.ofList (s.toList.flatMap escaped) ++ "\""

mutual

/-- Writes a value, without blanks. -/
def text : Json → String
  | .null => "null"
  | .bool b => if b then "true" else "false"
  | .num n => n.text
  | .str s => quoted s
  | .arr xs => "[" ++ ",".intercalate (itemTexts xs) ++ "]"
  | .obj ms => "\x7b" ++ ",".intercalate (memberTexts ms) ++ "\x7d"

/-- Writes each of some items. -/
def itemTexts : List Json → List String
  | [] => []
  | x :: xs => text x :: itemTexts xs

/-- The texts of members, each with its key. -/
def memberTexts {b : Option String} : Members Json b → List String
  | .nil => []
  | .cons k x _ ms => (quoted k ++ ":" ++ text x) :: memberTexts ms

end

end Json

end ConstraintTree

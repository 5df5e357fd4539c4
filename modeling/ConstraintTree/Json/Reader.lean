import ConstraintTree.Json.Basic

/-!
# Reading a JSON text

A text is read in two passes over what it consists of. The first cuts the
characters into tokens, with a small machine that is between two tokens, inside
a word or inside a string. The second puts the tokens together, with a stack of
the arrays and objects that are still open. Both are folds, so neither needs a
bound on the depth or the length of the text.
-/

namespace ConstraintTree

namespace Json

/-- A token of a JSON text; a string that stands for a key is a value too. -/
inductive Token where
  | value (v : Json)
  | openArray
  | closeArray
  | openObject
  | closeObject
  | comma
  | colon

namespace Token

/-! ## Cutting the text into tokens -/

/-- The value of a bare word: a literal name or a numeral. -/
def ofWord? (word : List Char) : Option Json :=
  if word = ['n', 'u', 'l', 'l'] then some .null
  else if word = ['t', 'r', 'u', 'e'] then some (.bool true)
  else if word = ['f', 'a', 'l', 's', 'e'] then some (.bool false)
  else do
    let numeral ← Numeral.ofChars? word
    return .num (← numeral.toNumber?)

/-- Where the scanner is. Characters are gathered in reverse. -/
inductive Mode where
  | between
  | word (chars : List Char)
  /-- Inside a string, perhaps after the first half of a surrogate pair. -/
  | string (chars : List Char) (high : Option Nat)
  | escape (chars : List Char) (high : Option Nat)
  /-- Inside a `\u` escape, with so many digits to come and the value so far. -/
  | hex (chars : List Char) (high : Option Nat) (missing : Nat) (code : Nat)

/-- The scanner: its mode and the tokens so far, in reverse. -/
structure Scan where
  mode : Mode
  tokens : List Token

/-- The token that a character is by itself. -/
def ofPunctuation? : Char → Option Token
  | '[' => some .openArray
  | ']' => some .closeArray
  | '{' => some .openObject
  | '}' => some .closeObject
  | ',' => some .comma
  | ':' => some .colon
  | _ => none

/-- Whether a character may stand between tokens and means nothing. -/
def isBlank (c : Char) : Bool := c = ' ' || c = '\t' || c = '\n' || c = '\r'

/-- A step of the scanner between two tokens. -/
def scanBetween (tokens : List Token) (c : Char) : Scan :=
  if isBlank c then ⟨.between, tokens⟩
  else if c = '"' then ⟨.string [] none, tokens⟩
  else
    match ofPunctuation? c with
    | some token => ⟨.between, token :: tokens⟩
    | none => ⟨.word [c], tokens⟩

/-- The value of a hexadecimal digit in either case. -/
def hexValue? (c : Char) : Option Nat :=
  if '0' ≤ c ∧ c ≤ '9' then some (c.toNat - '0'.toNat)
  else if 'a' ≤ c ∧ c ≤ 'f' then some (c.toNat - 'a'.toNat + 10)
  else if 'A' ≤ c ∧ c ≤ 'F' then some (c.toNat - 'A'.toNat + 10)
  else none

/-- The character of a one-letter escape. -/
def ofEscape? : Char → Option Char
  | '"' => some '"'
  | '\\' => some '\\'
  | '/' => some '/'
  | 'b' => some '\x08'
  | 'f' => some '\x0c'
  | 'n' => some '\n'
  | 'r' => some '\r'
  | 't' => some '\t'
  | _ => none

/-- A string goes on after a `\u` escape of some code. The two halves of a
surrogate pair have to stand together. -/
def afterHex? (chars : List Char) (high : Option Nat) (code : Nat) : Option Mode :=
  match high with
  | none =>
    if 0xD800 ≤ code ∧ code < 0xDC00 then some (.string chars (some code))
    else if 0xDC00 ≤ code ∧ code < 0xE000 then none
    else some (.string (Char.ofNat code :: chars) none)
  | some first =>
    if 0xDC00 ≤ code ∧ code < 0xE000 then
      some (.string
        (Char.ofNat (0x10000 + (first - 0xD800) * 0x400 + (code - 0xDC00)) :: chars) none)
    else none

/-- Takes one more character. -/
def scan? (s : Scan) (c : Char) : Option Scan :=
  match s.mode with
  | .between => some (scanBetween s.tokens c)
  | .word chars =>
    if isBlank c ∨ (ofPunctuation? c).isSome then do
      let v ← ofWord? chars.reverse
      return scanBetween (.value v :: s.tokens) c
    else
      some { s with mode := .word (c :: chars) }
  | .string chars none =>
    if c = '"' then
      some ⟨.between, .value (.str (String.ofList chars.reverse)) :: s.tokens⟩
    else if c = '\\' then some { s with mode := .escape chars none }
    else if c.toNat < 0x20 then none
    else some { s with mode := .string (c :: chars) none }
  | .string chars (some high) =>
    if c = '\\' then some { s with mode := .escape chars (some high) } else none
  | .escape chars high =>
    if c = 'u' then some { s with mode := .hex chars high 3 0 }
    else if high.isSome then none
    else (ofEscape? c).map fun d => { s with mode := .string (d :: chars) none }
  | .hex chars high missing code => do
    let code := code * 16 + (← hexValue? c)
    match missing with
    | 0 => return { s with mode := ← afterHex? chars high code }
    | more + 1 => return { s with mode := .hex chars high more code }

/-- The tokens of a text. A word at its end is complete, a string is not. -/
def ofText? (text : String) : Option (List Token) := do
  let s ← text.toList.foldlM scan? ⟨.between, []⟩
  match s.mode with
  | .between => return s.tokens.reverse
  | .word chars => return (.value (← ofWord? chars.reverse) :: s.tokens).reverse
  | _ => none

end Token

/-! ## Putting the tokens together -/

/-- An array or an object that is still open. Items and members are gathered
in reverse. -/
inductive Frame where
  | array (items : List Json)
  | object (members : List (String × Json)) (key : String)

/-- What may come next. -/
inductive Expected where
  | value
  /-- A value, or the end of an array that has no items yet. -/
  | firstItem
  /-- A key, or the end of an object that has no members yet. -/
  | firstKey
  | key (members : List (String × Json))
  | colon (members : List (String × Json)) (key : String)
  | commaOrClose
  | nothing (v : Json)

/-- The open arrays and objects, innermost first, and what may come next. -/
structure Assembly where
  frames : List Frame
  expected : Expected

namespace Assembly

/-- A value is complete: it goes into the innermost open array or object. -/
def complete (frames : List Frame) (v : Json) : Assembly :=
  match frames with
  | [] => ⟨[], .nothing v⟩
  | .array items :: outer => ⟨.array (v :: items) :: outer, .commaOrClose⟩
  | .object members key :: outer =>
    ⟨.object ((key, v) :: members) "" :: outer, .commaOrClose⟩

/-- A value begins with a token. -/
def begin? (frames : List Frame) : Token → Option Assembly
  | .value v => some (complete frames v)
  | .openArray => some ⟨.array [] :: frames, .firstItem⟩
  | .openObject => some ⟨frames, .firstKey⟩
  | _ => none

/-- Takes one more token. -/
def next? (a : Assembly) (token : Token) : Option Assembly :=
  match a.expected, token with
  | .value, _ => begin? a.frames token
  | .firstItem, .closeArray => some (complete a.frames.tail (.arr []))
  | .firstItem, _ => begin? a.frames token
  | .firstKey, .closeObject => some (complete a.frames (.obj .nil))
  | .firstKey, .value (.str key) => some { a with expected := .colon [] key }
  | .key members, .value (.str key) => some { a with expected := .colon members key }
  | .colon members key, .colon => some ⟨.object members key :: a.frames, .value⟩
  | .commaOrClose, _ =>
    match a.frames, token with
    | .array _ :: _, .comma => some { a with expected := .value }
    | .array items :: outer, .closeArray => some (complete outer (.arr items.reverse))
    | .object members _ :: outer, .comma => some ⟨outer, .key members⟩
    | .object members _ :: outer, .closeObject =>
      some (complete outer (Json.object members.reverse))
    | _, _ => none
  | _, _ => none

end Assembly

/-- Reads a text that is one value. There is none if it is not well formed. -/
def parse? (text : String) : Option Json := do
  let tokens ← Token.ofText? text
  let a ← tokens.foldlM Assembly.next? ⟨[], .value⟩
  match a.expected with
  | .nothing v => some v
  | _ => none

end Json

end ConstraintTree

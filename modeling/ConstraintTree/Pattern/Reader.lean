import ConstraintTree.Pattern.Syntax
import ConstraintTree.Unicode.Newcomer

/-!
# Reading a pattern

The reader walks over the characters once. The groups that are open are kept on
a stack, each with what stood before it, and so are the open brackets of a
class. A part of the reader gets the characters that are left and gives back
those that are left after it; there is none if the pattern is not well formed.

With the flag for it set, blanks and comments are passed over almost
everywhere: between the parts of a pattern, inside classes and inside escapes,
but neither in the names of groups nor among flags.

The two loops run on fuel. Every round takes at least one character, so as much
fuel as there are characters never runs out.
-/

namespace ConstraintTree

namespace Pattern

namespace Reader

/-! ## Characters -/

/-- Whether a character is blank to a pattern. -/
def isBlank (c : Char) : Bool := CharProperty.whiteSpace.contains c

/-- Passes over blanks, and over comments from `#` to the end of the line. -/
def skipBlanks (inComment : Bool) : List Char → List Char
  | [] => []
  | c :: cs =>
    if inComment then skipBlanks (c ≠ '\n') cs
    else if isBlank c then skipBlanks false cs
    else if c = '#' then skipBlanks true cs
    else c :: cs

/-- Passes over blanks and comments if the flag `x` is set. -/
def skip (x : Bool) (cs : List Char) : List Char := if x then skipBlanks false cs else cs

theorem length_skipBlanks_le (inComment : Bool) (cs : List Char) :
    (skipBlanks inComment cs).length ≤ cs.length := by
  induction cs generalizing inComment with
  | nil => simp [skipBlanks]
  | cons c cs ih =>
    simp only [skipBlanks, List.length_cons]
    split
    · exact Nat.le_succ_of_le (ih _)
    · split
      · exact Nat.le_succ_of_le (ih _)
      · split
        · exact Nat.le_succ_of_le (ih _)
        · exact Nat.le_refl _

theorem length_skip_le (x : Bool) (cs : List Char) : (skip x cs).length ≤ cs.length := by
  unfold skip
  split
  · exact length_skipBlanks_le false cs
  · exact Nat.le_refl _

/-- Takes characters as long as they satisfy `p`, passing over blanks after
each. -/
def gather (x : Bool) (p : Char → Bool) : List Char → List Char × List Char
  | [] => ([], [])
  | c :: cs =>
    if p c then
      let (taken, rest) := gather x p (skip x cs)
      (c :: taken, rest)
    else
      ([], c :: cs)
termination_by cs => cs.length
decreasing_by
  have := length_skip_le x cs
  simp only [List.length_cons]
  omega

/-- What is left after a character that has to come next. -/
def expect (c : Char) : List Char → Option (List Char)
  | d :: cs => if c = d then some cs else none
  | [] => none

/-- Whether `front` is how a list begins, and what follows it. -/
def afterPrefix? : List Char → List Char → Option (List Char)
  | [], cs => some cs
  | c :: front, d :: cs => if c = d then afterPrefix? front cs else none
  | _ :: _, [] => none

/-! ## Numbers -/

/-- A count of a repetition, which fits 32 bits. Blanks around it are passed
over with or without the flag. -/
def count? (x : Bool) (cs : List Char) : Option (Option Nat × List Char) :=
  let (digits, rest) := gather x Char.isDigit (cs.dropWhile isBlank)
  let rest := (gather x isBlank rest).2
  if digits.isEmpty then some (none, rest)
  else
    let n := Nat.ofDigitChars 10 digits 0
    if n < 0x100000000 then some (some n, rest) else none

/-- Whether a character is a hexadecimal digit. -/
def isHex (c : Char) : Bool :=
  c.isDigit || ('a' ≤ c && c ≤ 'f') || ('A' ≤ c && c ≤ 'F')

/-- The value of a hexadecimal digit. -/
def hexValue (c : Char) : Nat :=
  if c.isDigit then c.toNat - '0'.toNat
  else if 'a' ≤ c then c.toNat - 'a'.toNat + 10
  else c.toNat - 'A'.toNat + 10

/-- The character whose code is written by some digits, if there is one. -/
def ofHex? (digits : List Char) : Option Char :=
  let code := digits.foldl (fun n c => n * 16 + hexValue c) 0
  if digits.all isHex ∧ code.isValidChar then some (Char.ofNat code) else none

/-- So many hexadecimal digits, no fewer. -/
def hexDigits? (x : Bool) : Nat → List Char → Option (List Char × List Char)
  | 0, cs => some ([], cs)
  | n + 1, c :: cs =>
    if isHex c then do
      let (digits, rest) ← hexDigits? x n (skip x cs)
      return (c :: digits, rest)
    else
      none
  | _ + 1, [] => none

/-! ## Escapes -/

/-- What a single element of a pattern can be. -/
inductive Atom where
  | literal (l : Literal)
  | assertion (a : Assertion)
  | escape (e : ClassEscape)

/-- A character that stands for itself. -/
def Atom.char (c : Char) : Atom := .literal ⟨c, false⟩

/-- A hexadecimal escape, after its letter: some digits in braces, or as many as
the letter asks for. -/
def hexEscape? (x : Bool) (width : Nat) (cs : List Char) : Option (Atom × List Char) :=
  match skip x cs with
  | '{' :: cs => do
    let (digits, rest) := gather x (· ≠ '}') (skip x cs)
    let rest ← expect '}' rest
    if digits.isEmpty then none
    else
      let c ← ofHex? digits
      return (.literal ⟨c, false⟩, skip x rest)
  | cs => do
    let (digits, rest) ← hexDigits? x width cs
    let c ← ofHex? digits
    return (.literal ⟨c, width = 2⟩, rest)

/-- Cuts a text before and after the first occurrence of `mark`. -/
def cutAt? (mark : List Char) : List Char → Option (List Char × List Char)
  | [] => none
  | c :: cs =>
    match afterPrefix? mark (c :: cs) with
    | some rest => some ([], rest)
    | none => (cutAt? mark cs).map fun (front, rest) => (c :: front, rest)

/-- The query that stands in braces, and whether it is negated by its sign. -/
def propertyQuery (text : List Char) : PropertyQuery × Bool :=
  let valued (parts : List Char × List Char) : PropertyQuery :=
    .valued (String.ofList parts.1) (String.ofList parts.2)
  match cutAt? ['!', '='] text with
  | some parts => (valued parts, true)
  | none =>
    match cutAt? [':'] text with
    | some parts => (valued parts, false)
    | none =>
      match cutAt? ['='] text with
      | some parts => (valued parts, false)
      | none => (.named (String.ofList text), false)

/-- A property escape, after its letter. -/
def propertyEscape? (x negated : Bool) (cs : List Char) : Option (Atom × List Char) :=
  match skip x cs with
  | [] => none
  | '{' :: cs => do
    let (text, rest) := gather x (· ≠ '}') (skip x cs)
    let rest ← expect '}' rest
    let (query, unequal) := propertyQuery text
    return (.escape (.property query (negated != unequal)), rest)
  | '\\' :: _ => none
  | c :: cs => some (.escape (.property (.named (String.singleton c)) negated), skip x cs)

/-- A word boundary, after its letter. Letters in braces say which kind; braces
that hold anything else belong to a repetition. -/
def boundary? (x : Bool) (cs : List Char) : Option (Atom × List Char) :=
  let isLetter (c : Char) : Bool := c.isAlpha || c = '-'
  match cs with
  | '{' :: rest =>
    match skip x rest with
    | [] => none
    | c :: inner =>
      if isLetter c then do
        let (name, rest) := gather x isLetter (c :: inner)
        let rest ← expect '}' rest
        let kind ← match String.ofList name with
          | "start" => some Assertion.wordStart
          | "end" => some .wordEnd
          | "start-half" => some .wordStartHalf
          | "end-half" => some .wordEndHalf
          | _ => none
        return (.assertion kind, rest)
      else
        some (.assertion .wordBoundary, cs)
  | _ => some (.assertion .wordBoundary, cs)

/-- An escape, after its backslash. Any character below 128 that is neither a
letter nor a digit nor an angle bracket may be escaped and then stands for
itself. -/
def escape? (x : Bool) : List Char → Option (Atom × List Char)
  | [] => none
  | c :: cs =>
    let shorthand (kind : Shorthand) (negated : Bool) : Option (Atom × List Char) :=
      some (.escape (.shorthand kind negated), cs)
    let assertion (a : Assertion) : Option (Atom × List Char) := some (.assertion a, cs)
    match c with
    | 'x' => hexEscape? x 2 cs
    | 'u' => hexEscape? x 4 cs
    | 'U' => hexEscape? x 8 cs
    | 'p' => propertyEscape? x false cs
    | 'P' => propertyEscape? x true cs
    | 'd' => shorthand .digit false
    | 'D' => shorthand .digit true
    | 's' => shorthand .space false
    | 'S' => shorthand .space true
    | 'w' => shorthand .word false
    | 'W' => shorthand .word true
    | 'a' => some (.char '\x07', cs)
    | 'f' => some (.char '\x0c', cs)
    | 't' => some (.char '\t', cs)
    | 'n' => some (.char '\n', cs)
    | 'r' => some (.char '\r', cs)
    | 'v' => some (.char '\x0b', cs)
    | 'A' => assertion .textStart
    | 'z' => assertion .textEnd
    | 'b' => boundary? x cs
    | 'B' => assertion .notWordBoundary
    | '<' => assertion .wordStart
    | '>' => assertion .wordEnd
    | c => if c.isAlphanum ∨ 0x80 ≤ c.toNat then none else some (.char c, cs)

/-! ## Classes -/

/-- A class of a POSIX name, after its first bracket. What does not look like
one, or has no known name, is left to be a class in brackets. -/
def posixClass? (cs : List Char) : Option (ClassBody × List Char) := do
  let cs ← expect ':' cs
  let (negated, cs) := match cs with
    | '^' :: rest => (true, rest)
    | cs => (false, cs)
  let name := String.ofList (cs.takeWhile (· ≠ ':'))
  let rest ← afterPrefix? [':', ']'] (cs.dropWhile (· ≠ ':'))
  if ["alnum", "alpha", "ascii", "blank", "cntrl", "digit", "graph", "lower", "print", "punct",
      "space", "upper", "word", "xdigit"].contains name then
    return (.posix name negated, rest)
  else
    none

/-- An operand or an open bracket that waits for the rest of a class. Items are
gathered in reverse. -/
inductive ClassFrame where
  | bracket (before : List ClassBody) (negated : Bool)
  | operand (op : ClassOperator) (left : ClassBody)

/-- The body of some items. -/
def bodyOf : List ClassBody → ClassBody
  | [] => .empty
  | [b] => b
  | items => .union items.reverse

/-- Ends an operand: it is combined with the one that waits for it, if any. -/
def closeOperand (stack : List ClassFrame) (right : ClassBody) : ClassBody × List ClassFrame :=
  match stack with
  | .operand op left :: outer => (.combine op left right, outer)
  | stack => (right, stack)

/-- Takes the dashes that stand for themselves at the start of a class. -/
def leadingDashes (x : Bool) (items : List ClassBody) (cs : List Char) :
    List ClassBody × List Char :=
  let (dashes, rest) := gather x (· = '-') cs
  (dashes.map (fun c => .literal ⟨c, false⟩) ++ items, rest)

/-- Opens a class, after its bracket: a sign of negation, then dashes that stand
for themselves, or else a closing bracket that does. -/
def openClass? (x : Bool) (cs : List Char) : Option (Bool × List ClassBody × List Char) :=
  let (negated, cs) := match skip x cs with
    | '^' :: rest => (true, skip x rest)
    | cs => (false, cs)
  let (items, cs) := leadingDashes x [] cs
  match items, cs with
  | _, [] => none
  | [], ']' :: rest => some (negated, [.literal ⟨']', false⟩], skip x rest)
  | items, cs => some (negated, items, cs)

/-- One end of a range, or a single element of a class. -/
def classAtom? (x : Bool) : List Char → Option (Atom × List Char)
  | [] => none
  | '\\' :: cs => escape? x cs
  | c :: cs => some (.char c, cs)

/-- What an element is in a class, where no assertion may stand. -/
def Atom.classBody? : Atom → Option ClassBody
  | .literal l => some (.literal l)
  | .escape e => some (.escape e)
  | .assertion _ => none

/-- The literal that an element is. Only a literal ends a range. -/
def Atom.literal? : Atom → Option Literal
  | .literal l => some l
  | _ => none

/-- The next character that counts, without taking it. A mark of a comment is
passed over, the comment is not. -/
def peek (x : Bool) (cs : List Char) : Option Char :=
  if x then
    match cs.dropWhile isBlank with
    | '#' :: rest => (rest.dropWhile isBlank).head?
    | rest => rest.head?
  else
    cs.head?

/-- An element of a class: a single one, or a range from one literal to another.
A dash before a closing bracket or before another dash makes no range. -/
def classItem? (x : Bool) (cs : List Char) : Option (ClassBody × List Char) := do
  let (first, rest) ← classAtom? x cs
  match skip x rest with
  | [] => none
  | '-' :: after =>
    if peek x after = some ']' ∨ peek x after = some '-' then
      return (← first.classBody?, '-' :: after)
    else
      let (last, rest) ← classAtom? x (skip x after)
      let low ← first.literal?
      let high ← last.literal?
      if low.char ≤ high.char then return (.range low high, rest) else none
  | rest => return (← first.classBody?, rest)

/-- Reads a class, from its first bracket on. -/
def class? (x : Bool) : Nat → List ClassFrame → List ClassBody → List Char →
    Option (Syntax × List Char)
  | 0, _, _, _ => none
  | fuel + 1, stack, items, cs =>
    let combine (op : ClassOperator) (rest : List Char) : Option (Syntax × List Char) :=
      let (left, outer) := closeOperand stack (bodyOf items)
      class? x fuel (.operand op left :: outer) [] rest
    match skip x cs with
    | [] => none
    | '[' :: rest =>
      match if stack.isEmpty then none else posixClass? rest with
      | some (item, rest) => class? x fuel stack (item :: items) rest
      | none => do
        let (negated, inner, rest) ← openClass? x rest
        class? x fuel (.bracket items negated :: stack) inner rest
    | ']' :: rest =>
      let (body, stack) := closeOperand stack (bodyOf items)
      match stack with
      | [.bracket _ negated] => some (.bracket negated body, rest)
      | .bracket before negated :: outer =>
        class? x fuel outer (.bracket negated body :: before) rest
      | _ => none
    | '&' :: '&' :: rest => combine .intersection rest
    | '-' :: '-' :: rest => combine .difference rest
    | '~' :: '~' :: rest => combine .symmetricDifference rest
    | cs => do
      let (item, rest) ← classItem? x cs
      class? x fuel stack (item :: items) rest

/-! ## Groups -/

/-- Whether a character may stand in the name of a group. -/
def isNameChar (isFirst : Bool) (c : Char) : Bool :=
  if isFirst then c = '_' || Newcomer.alphabetic.contains c
  else c = '_' || c = '.' || c = '[' || c = ']' || Newcomer.alphanumeric.contains c

/-- The name of a group, up to its closing bracket. -/
def groupName? (cs : List Char) : Option (String × List Char) := do
  let name := cs.takeWhile (· ≠ '>')
  let rest ← expect '>' (cs.dropWhile (· ≠ '>'))
  match name with
  | [] => none
  | c :: others =>
    if isNameChar true c ∧ others.all (isNameChar false) then
      return (String.ofList name, rest)
    else
      none

/-- The flag of a letter. -/
def flag? : Char → Option Flag
  | 'i' => some .ignoreCase
  | 'm' => some .multiLine
  | 's' => some .dotMatchesLineFeed
  | 'U' => some .swapGreed
  | 'u' => some .unicode
  | 'R' => some .crlf
  | 'x' => some .ignoreBlanks
  | _ => none

/-- Flags up to a colon or a closing bracket, each at most once. A dash, of
which there is one at most, switches off what follows it and is not the last. -/
def switches? (done : List Switch) (negated afterDash : Bool) :
    List Char → Option (List Switch × Char × List Char)
  | [] => none
  | c :: cs =>
    if c = ':' ∨ c = ')' then
      if afterDash then none else some (done.reverse, c, cs)
    else if c = '-' then
      if negated then none else switches? done true true cs
    else do
      let f ← flag? c
      if done.any (·.flag = f) then none
      else switches? (⟨f, !negated⟩ :: done) negated false cs

/-- What a bracket opens. -/
inductive Opening where
  | group (captures : Bool) (name : Option String) (changes : List Switch)
  /-- No group, but switches for the one around it. -/
  | switches (changes : List Switch)

/-- Opens a group, after its bracket. Looking around is not supported. -/
def opening? (x : Bool) (cs : List Char) : Option (Opening × List Char) :=
  let named (cs : List Char) : Option (Opening × List Char) := do
    let (name, rest) ← groupName? cs
    return (.group true (some name) [], rest)
  match skip x cs with
  | '?' :: '=' :: _ => none
  | '?' :: '!' :: _ => none
  | '?' :: '<' :: '=' :: _ => none
  | '?' :: '<' :: '!' :: _ => none
  | '?' :: 'P' :: '<' :: cs => named cs
  | '?' :: '<' :: cs => named cs
  | '?' :: cs => do
    let (changes, last, rest) ← switches? [] false false cs
    if last = ':' then return (.group false none changes, rest)
    else if changes.isEmpty then none
    else return (.switches changes, rest)
  | cs => some (.group true none [], cs)

/-! ## The whole pattern -/

/-- A list of items read as one, in order. -/
def concatOf (items : List Syntax) : Syntax :=
  match items with
  | [] => .empty
  | [s] => s
  | items => .concat items.reverse

/-- Branches read as one, in order. -/
def alternationOf (branches : List Syntax) : Syntax :=
  match branches with
  | [s] => s
  | branches => .alternation branches.reverse

/-- A group that is open: how it began, whether blanks counted around it, and
the items and branches around it, gathered in reverse. -/
structure GroupFrame where
  captures : Bool
  changes : List Switch
  ignoreBlanks : Bool
  items : List Syntax
  branches : List Syntax

/-- Where the reader is: the open groups, the branches and items of the
innermost one, whether blanks are ignored, and the names of groups so far. -/
structure State where
  frames : List GroupFrame
  branches : List Syntax
  items : List Syntax
  ignoreBlanks : Bool
  names : List String

namespace State

/-- The reader in front of a pattern. -/
def start : State := ⟨[], [], [], false, []⟩

/-- Adds an item to the innermost group. -/
def push (st : State) (s : Syntax) : State := { st with items := s :: st.items }

/-- Everything that the innermost group holds. -/
def content (st : State) : Syntax := alternationOf (concatOf st.items :: st.branches)

/-- Opens a group, or lets switches work. No two groups have the same name. -/
def openGroup? (st : State) : Opening → Option State
  | .switches changes =>
    let blanks := Switch.apply changes .ignoreBlanks st.ignoreBlanks
    some { st.push (.switches changes) with ignoreBlanks := blanks }
  | .group captures name changes =>
    if name.any st.names.contains then none
    else some {
      frames := ⟨captures, changes, st.ignoreBlanks, st.items, st.branches⟩ :: st.frames
      branches := []
      items := []
      ignoreBlanks := Switch.apply changes .ignoreBlanks st.ignoreBlanks
      names := name.toList ++ st.names }

/-- Closes the innermost group, if one is open. -/
def closeGroup? (st : State) : Option State :=
  match st.frames with
  | [] => none
  | f :: outer => some {
      frames := outer
      branches := f.branches
      items := .group f.captures f.changes st.content :: f.items
      ignoreBlanks := f.ignoreBlanks
      names := st.names }

/-- Ends a branch of the innermost group. -/
def nextBranch (st : State) : State :=
  { st with branches := concatOf st.items :: st.branches, items := [] }

/-- Repeats the last item. There has to be one that can be repeated. -/
def repeatLast? (st : State) (low : Nat) (high : Option Nat) (reluctant : Bool) :
    Option State :=
  match st.items with
  | [] => none
  | .empty :: _ => none
  | .switches _ :: _ => none
  | s :: before => some { st with items := .repetition low high reluctant s :: before }

end State

/-- Whether the mark follows that makes a repetition reluctant, and what is left
after it. -/
def reluctance : List Char → Bool × List Char
  | '?' :: cs => (true, cs)
  | cs => (false, cs)

/-- A counted repetition, after its brace. -/
def counts? (x : Bool) (cs : List Char) : Option (Nat × Option Nat × List Char) := do
  let (low, rest) ← count? x (skip x cs)
  let (high, rest) ← match rest with
    | ',' :: rest =>
      match skip x rest with
      | '}' :: rest => some (none, '}' :: rest)
      | rest => do
        let (high, rest) ← count? x rest
        some (some (← high), rest)
    | rest => some (some (← low), rest)
  let low ← low
  let rest ← expect '}' rest
  if high.all (low ≤ ·) then return (low, high, skip x rest) else none

/-- Takes the next part of a pattern that is not at its end. -/
def part? (fuel : Nat) (st : State) : List Char → Option (State × List Char)
  | [] => none
  | c :: cs =>
    let x := st.ignoreBlanks
    let repeated (low : Nat) (high : Option Nat) (rest : List Char) :
        Option (State × List Char) := do
      let (reluctant, rest) := reluctance rest
      return (← st.repeatLast? low high reluctant, rest)
    match c with
    | '(' => do
      let (opening, rest) ← opening? x cs
      return (← st.openGroup? opening, rest)
    | ')' => do return (← st.closeGroup?, cs)
    | '|' => some (st.nextBranch, cs)
    | '[' => do
      let (s, rest) ← class? x fuel [] [] ('[' :: cs)
      return (st.push s, rest)
    | '?' => repeated 0 (some 1) cs
    | '*' => repeated 0 none cs
    | '+' => repeated 1 none cs
    | '{' => do
      let (low, high, rest) ← counts? x cs
      repeated low high rest
    | '\\' => do
      let (atom, rest) ← escape? x cs
      let s := match atom with
        | .literal l => Syntax.literal l
        | .assertion a => .assertion a
        | .escape e => .escape e
      return (st.push s, rest)
    | '.' => some (st.push .dot, cs)
    | '^' => some (st.push (.assertion .lineStart), cs)
    | '$' => some (st.push (.assertion .lineEnd), cs)
    | c => some (st.push (.literal ⟨c, false⟩), cs)

/-- Reads one part after another. -/
def loop (length : Nat) : Nat → State → List Char → Option Syntax
  | 0, _, _ => none
  | fuel + 1, st, cs =>
    match skip st.ignoreBlanks cs with
    | [] => if st.frames.isEmpty then some st.content else none
    | cs => do
      let (st, rest) ← part? length st cs
      loop length fuel st rest

end Reader

/-- Reads a pattern. One that nests too deep is refused. -/
def Syntax.parse? (source : String) : Option Syntax := do
  let cs := source.toList
  let s ← Reader.loop (cs.length + 1) (cs.length + 1) .start cs
  if s.depth ≤ maxDepth then return s else none

end Pattern

end ConstraintTree

import ConstraintTree.Json.Basic

/-!
# Reports

What validation has to say: messages, each about one place, in the order of the
schema. A report without messages means that the data is valid.
-/

namespace ConstraintTree

/-- What is said about a place of a document. -/
structure Message where
  target : String
  text : String
  deriving DecidableEq, Repr

namespace Message

/-- One line that shows a message. -/
def display (m : Message) : String := "[" ++ m.target ++ "] " ++ m.text

/-- Writes a message. -/
def toJson (m : Message) : Json :=
  .object [("message", .str m.text), ("target", .str m.target)]

/-- Reads a message from an object, in which other keys are passed over, or
from an array of its two fields. -/
def ofJson? : Json → Option Message
  | .obj ms => do
    return ⟨← (← ms.lookup "target").str?, ← (← ms.lookup "message").str?⟩
  | .arr [target, text] => do
    return ⟨← target.str?, ← text.str?⟩
  | _ => none

end Message

/-- Messages in the order in which they were found. -/
structure Report where
  messages : List Message
  deriving DecidableEq, Repr

namespace Report

/-- A report without a message. -/
def empty : Report := ⟨[]⟩

/-- Appends a message. -/
def add (r : Report) (m : Message) : Report := ⟨r.messages ++ [m]⟩

/-- How many messages there are. -/
def size (r : Report) : Nat := r.messages.length

/-- Whether there is no message, so that the document is valid. -/
def isEmpty (r : Report) : Bool := r.messages.isEmpty

/-- The paths that the messages are about, in order. -/
def targets (r : Report) : List String := r.messages.map (·.target)

/-- The messages about exactly the place `target`. -/
def forTarget (r : Report) (target : String) : List Message :=
  r.messages.filter (·.target == target)

/-- The value if there is nothing to report, and otherwise the report. -/
def toExcept {α : Type} (r : Report) (value : α) : Except Report α :=
  if r.isEmpty then .ok value else .error r

/-- The lines that show the messages, numbered from `n`. -/
def lines (n : Nat) : List Message → String
  | [] => ""
  | m :: ms => "  " ++ Nat.repr n ++ ". " ++ m.display ++ "\n" ++ lines (n + 1) ms

/-- A heading with the count, and a numbered line for each message. -/
def display (r : Report) : String :=
  "Validation failed with " ++ Nat.repr r.size ++ " error(s):\n" ++ lines 1 r.messages

/-- Writes a report, as an array of its messages. -/
def toJson (r : Report) : Json := .arr (r.messages.map Message.toJson)

/-- Reads a report. -/
def ofJson? : Json → Option Report
  | .arr xs => (xs.mapM Message.ofJson?).map .mk
  | _ => none

end Report

end ConstraintTree

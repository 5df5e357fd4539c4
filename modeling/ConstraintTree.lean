import ConstraintTree.Json.Text
import ConstraintTree.Json.Reader
import ConstraintTree.Schema.Encode
import ConstraintTree.Schema.Decode
import ConstraintTree.Validator.Basic
import ConstraintTree.Registry.Display
import ConstraintTree.Proofs.Members
import ConstraintTree.Proofs.Decimal
import ConstraintTree.Proofs.Path
import ConstraintTree.Proofs.WellFormed
import ConstraintTree.Proofs.Compile
import ConstraintTree.Proofs.Interpreter
import ConstraintTree.Proofs.Instance
import ConstraintTree.Proofs.Topmost
import ConstraintTree.Proofs.Descent
import ConstraintTree.Proofs.Order
import ConstraintTree.Proofs.Independence
import ConstraintTree.Proofs.FirstViolation
import ConstraintTree.Proofs.Spelling
import ConstraintTree.Proofs.RoundTrip
import ConstraintTree.Proofs.Registry
import ConstraintTree.Proofs.Resolution
import ConstraintTree.Proofs.PatternCache
import ConstraintTree.Proofs.Rewriting
import ConstraintTree.Proofs.Builder
import ConstraintTree.Proofs.Edit
import ConstraintTree.Proofs.Weakening
import ConstraintTree.Proofs.Reordering
import ConstraintTree.Proofs.Insertion
import ConstraintTree.Proofs.Agreement
import ConstraintTree.Proofs.ItemId
import ConstraintTree.Proofs.Address
import ConstraintTree.Proofs.Template
import ConstraintTree.Proofs.Rounding
import ConstraintTree.Proofs.Comparison
import ConstraintTree.Proofs.LengthBound
import ConstraintTree.Proofs.ValueEquality
import ConstraintTree.Proofs.ByteOrder
import ConstraintTree.Proofs.History
import ConstraintTree.Json.Members
import ConstraintTree.Proofs.Members

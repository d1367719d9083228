import SharedBudget.Bundle.Columns
import SharedBudget.Config.Discovery
import SharedBudget.Log.Line
import SharedBudget.Mechanism.Sum
import SharedBudget.Proofs.Binary.Exact
import SharedBudget.Proofs.Log.Outcome
import SharedBudget.Proofs.Bundle.Making
import SharedBudget.Proofs.Bundle.Rules
import SharedBudget.Proofs.Budget.Conservation
import SharedBudget.Proofs.Budget.Soundness
import SharedBudget.Proofs.Bundle.Sums
import SharedBudget.Proofs.Bundle.Program
import SharedBudget.Proofs.Bundle.Refusals
import SharedBudget.Proofs.Bundle.Sharding
import SharedBudget.Proofs.Bundle.Product
import SharedBudget.Proofs.Decimal.Shortest
import SharedBudget.Proofs.Json.Numbers
import SharedBudget.Proofs.Json.Scalars
import SharedBudget.Proofs.Json.Records
import SharedBudget.Proofs.Mechanism.Blobs
import SharedBudget.Proofs.Calendar
import SharedBudget.Proofs.Checkpoint.Frames
import SharedBudget.Proofs.Bundle.Restoring
import SharedBudget.Proofs.Bundle.Counting
import SharedBudget.Proofs.Bundle.Documents
import SharedBudget.Proofs.Bundle.Ownership
import SharedBudget.Proofs.Bundle.Shape
import SharedBudget.Proofs.Bundle.Columns
import SharedBudget.Proofs.Bundle.Blindness
import SharedBudget.Proofs.Decimal.Literal
import SharedBudget.Proofs.Parameter
import SharedBudget.Proofs.Spec
import SharedBudget.Proofs.Json.Extension
import SharedBudget.Proofs.Json.Cut
import SharedBudget.Proofs.Checkpoint.Torn
import SharedBudget.Proofs.Bundle.Compatibility
import SharedBudget.Proofs.Binary.Word
import SharedBudget.Proofs.Mechanism.Gates
import SharedBudget.Proofs.Bundle.Events
import SharedBudget.Proofs.Config.Precedence
import SharedBudget.Proofs.Parameter.Layouts
import SharedBudget.Proofs.Checkpoint.Layouts
import SharedBudget.Proofs.Integers
import SharedBudget.Proofs.Text.Base64.Canonical
import SharedBudget.Proofs.Text.Order
import SharedBudget.Proofs.Registry
import SharedBudget.Proofs.Log.Precedence

import CypherBatch.Main
import CypherBatch.Text.Percent
import CypherBatch.Text.Punycode
import CypherBatch.Proofs.Batches
import CypherBatch.Proofs.Conventions
import CypherBatch.Proofs.EdgeTokens
import CypherBatch.Proofs.Names
import CypherBatch.Proofs.TypeExpansion
import CypherBatch.Proofs.NodeCalls
import CypherBatch.Proofs.EdgeCalls
import CypherBatch.Proofs.Scanning
import CypherBatch.Proofs.Placeholders
import CypherBatch.Proofs.Clauses
import CypherBatch.Proofs.Lifecycle
import CypherBatch.Proofs.Remapping
import CypherBatch.Proofs.Skeletons
import CypherBatch.Proofs.ValueBlindness
import CypherBatch.Proofs.Insertion
import CypherBatch.Proofs.Nesting
import CypherBatch.Proofs.Flattening
import CypherBatch.Proofs.Restoring
import CypherBatch.Proofs.Rebuilding
import CypherBatch.Proofs.Loading
import CypherBatch.Proofs.DryRuns
import CypherBatch.Proofs.Documents
import CypherBatch.Proofs.Appending
import CypherBatch.Proofs.Failures
import CypherBatch.Proofs.Accounting
import CypherBatch.Proofs.Alternatives
import CypherBatch.Proofs.Conflicts
import CypherBatch.Proofs.Escapes
import CypherBatch.Proofs.Readability
import CypherBatch.Proofs.Canonical
import CypherBatch.Proofs.Reordering
import CypherBatch.Proofs.Identities
import CypherBatch.Proofs.Resaving
import CypherBatch.Proofs.Projections
import CypherBatch.Proofs.NameReading
import CypherBatch.Proofs.Admission
import CypherBatch.Proofs.Stability
import CypherBatch.Proofs.Boxes
import CypherBatch.Proofs.ClauseOrder
import CypherBatch.Proofs.NamedFields
import CypherBatch.Proofs.Constraints
import CypherBatch.Proofs.GroupOrder
import CypherBatch.Proofs.UntypedEdges
import CypherBatch.Proofs.HiddenErrors
import CypherBatch.Proofs.Splicing
import CypherBatch.Proofs.ClauseRoles
import CypherBatch.Proofs.Encodings
import CypherBatch.Proofs.Authorization

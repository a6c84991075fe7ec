import StatementBundler.Bundle.Build
import StatementBundler.Options
import StatementBundler.Proofs.Demand.Precedence
import StatementBundler.Proofs.Demand.Traversal
import StatementBundler.Proofs.Demand.Waiting
import StatementBundler.Proofs.Bundle.Growth
import StatementBundler.Proofs.Bundle.Resolution
import StatementBundler.Proofs.Demand.Expansion
import StatementBundler.Proofs.Bundle.Build
import StatementBundler.Proofs.Demand.Closure
import StatementBundler.Proofs.Demand.Order
import StatementBundler.Proofs.Table
import StatementBundler.Proofs.Analysis.Writes
import StatementBundler.Proofs.Analysis.Tables
import StatementBundler.Proofs.Demand.Discovery
import StatementBundler.Proofs.Demand.Writers
import StatementBundler.Proofs.Naming.Plan
import StatementBundler.Proofs.Naming.Linkage
import StatementBundler.Proofs.Naming.Numbering
import StatementBundler.Proofs.Naming.Collisions
import StatementBundler.Proofs.Bundle.Endings
import StatementBundler.Proofs.Bundle.Steps
import StatementBundler.Proofs.Bundle.Supply
import StatementBundler.Proofs.Bundle.Following
import StatementBundler.Proofs.Demand.Halting
import StatementBundler.Proofs.Demand.Recursion
import StatementBundler.Proofs.Demand.Termination
import StatementBundler.Proofs.Demand.Success
import StatementBundler.Proofs.Bundle.Lifetime
import StatementBundler.Proofs.Demand.Loading
import StatementBundler.Proofs.Demand.Replay
import StatementBundler.Proofs.Demand.Redeclaration
import StatementBundler.Proofs.Analysis.Tracing
import StatementBundler.Proofs.Program.Scoping
import StatementBundler.Proofs.Analysis.Statements
import StatementBundler.Proofs.Excerpt
import StatementBundler.Proofs.Program.Identifiers
import StatementBundler.Proofs.Renaming
import StatementBundler.Proofs.Bundle.Emission
import StatementBundler.Proofs.Bundle.RoundTrip
import StatementBundler.Proofs.Demand.Roots
import StatementBundler.Proofs.Demand.Setting
import StatementBundler.Proofs.Bundle.Catalogue
import StatementBundler.Proofs.Demand.Loosening
import StatementBundler.Proofs.Naming.Blocks
import StatementBundler.Proofs.Program.Renamed
import StatementBundler.Proofs.Program.Standing
import StatementBundler.Proofs.Analysis.Renamed
import StatementBundler.Proofs.Analysis.Places
import StatementBundler.Proofs.Analysis.Locality
import StatementBundler.Proofs.Analysis.Policies
import StatementBundler.Proofs.Analysis.Exports
import StatementBundler.Proofs.Demand.Unresolved
import StatementBundler.Proofs.Editing
import StatementBundler.Proofs.Superseding
import StatementBundler.Proofs.Snipping
import StatementBundler.Proofs.Bundle.Identity
import StatementBundler.Proofs.Analysis.Heads
import StatementBundler.Proofs.Lookup
import StatementBundler.Proofs.Position
import StatementBundler.Proofs.Demand.Updates
import StatementBundler.Proofs.Program.Starts

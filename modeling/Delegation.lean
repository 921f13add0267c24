import Delegation.Main
import Delegation.Proofs.Assurance
import Delegation.Proofs.CommandLine.Arguments
import Delegation.Proofs.Compilation.Chain
import Delegation.Proofs.Compilation.Circles
import Delegation.Proofs.Compilation.Clashes
import Delegation.Proofs.Compilation.Clauses
import Delegation.Proofs.Compilation.Order
import Delegation.Proofs.Compilation.References
import Delegation.Proofs.Compilation.Standstill
import Delegation.Proofs.Java.NameCalls
import Delegation.Proofs.Output.Places
import Delegation.Proofs.Pass.Neighbours
import Delegation.Proofs.Pass.Order
import Delegation.Proofs.Pass.Session
import Delegation.Proofs.Snapshot.Operations
import Delegation.Proofs.Snapshot.Order
import Delegation.Proofs.Snapshot.Signatures
import Delegation.Proofs.Source.ImportRule
import Delegation.Proofs.Symbol.Overriding
import Delegation.Proofs.Synthesis.Coverage
import Delegation.Proofs.Validation.Findings
import Delegation.Proofs.Validation.Reordering
import Delegation.Proofs.Validation.Stability
import Delegation.Proofs.Synthesis.Construction
import Delegation.Proofs.Synthesis.Sharing
import Delegation.Proofs.Symbol.Gaps
import Delegation.Proofs.Synthesis.Waiting

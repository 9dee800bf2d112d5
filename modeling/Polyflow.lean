import Polyflow.Lookup.Typing
import Polyflow.Registry
import Polyflow.Node.Schedule
import Polyflow.Proofs.Ty.Equality
import Polyflow.Proofs.Infer.History
import Polyflow.Proofs.Lookup.Findings
import Polyflow.Proofs.Lookup.Derivation
import Polyflow.Proofs.Infer.Satisfaction
import Polyflow.Proofs.Lookup.Soundness
import Polyflow.Proofs.Ty.Opening
import Polyflow.Proofs.Infer.Persistence
import Polyflow.Proofs.Lookup.Rounds
import Polyflow.Proofs.Lookup.Emissions
import Polyflow.Proofs.Lookup.Beginnings
import Polyflow.Proofs.Node.Interleaving
import Polyflow.Proofs.Node.Scheduling
import Polyflow.Proofs.Lookup.Admission
import Polyflow.Proofs.Lookup.Failure
import Polyflow.Proofs.Lookup.Detection
import Polyflow.Proofs.Lookup.Course
import Polyflow.Proofs.Lookup.Recurrence
import Polyflow.Proofs.Lookup.Unknowns
import Polyflow.Proofs.Lookup.Numbering
import Polyflow.Proofs.Lookup.Repeats
import Polyflow.Proofs.Value.Sample
import Polyflow.Proofs.Lookup.Monomorphism
import Polyflow.Proofs.Lookup.WellTyped
import Polyflow.Proofs.Lookup.Exchange
import Polyflow.Proofs.Lookup.Lifecycle
import Polyflow.Proofs.Ty.Instance
import Polyflow.Proofs.Lookup.Renaming
import Polyflow.Proofs.Lookup.MissingMember
import Polyflow.Proofs.Construction
import Polyflow.Proofs.Ty.Difference
import Polyflow.Proofs.Ty.Interchange
import Polyflow.Proofs.Value.Partial
import Polyflow.Proofs.Lookup.Decomposition
import Polyflow.Proofs.Infer.Recording
import Polyflow.Proofs.Infer.Minimum
import Polyflow.Proofs.Lookup.Rebuilding
import Polyflow.Proofs.Ty.Readability
import Polyflow.Proofs.Infer.Ledger
import Polyflow.Proofs.Registration
import Polyflow.Proofs.DistinctNames

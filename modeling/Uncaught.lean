import Uncaught.Check.Probe
import Uncaught.Check.Session
import Uncaught.Codebase
import Uncaught.Config.Load
import Uncaught.Diagnostic.Record
import Uncaught.Proofs.ClassEdges
import Uncaught.Proofs.Exactness
import Uncaught.Proofs.Ignoring
import Uncaught.Proofs.Isolation
import Uncaught.Proofs.MethodContracts
import Uncaught.Proofs.Nullability
import Uncaught.Proofs.Renumbering
import Uncaught.Proofs.Registrations
import Uncaught.Proofs.Repetition
import Uncaught.Proofs.Soundness
import Uncaught.Proofs.LookupOrder
import Uncaught.Proofs.CallChecking
import Uncaught.Proofs.Batches
import Uncaught.Proofs.Distance
import Uncaught.Proofs.Inheritance
import Uncaught.Proofs.References
import Uncaught.Proofs.Catching
import Uncaught.Proofs.TypeGrammar
import Uncaught.Proofs.LookupModes
import Uncaught.Proofs.BoundNames
import Uncaught.Proofs.RoutineContracts
import Uncaught.Proofs.TypeSetAlgebra
import Uncaught.Proofs.RecordFormat
import Uncaught.Proofs.ConfigLayers
import Uncaught.Proofs.Interning
import Uncaught.Proofs.StoredNames
import Uncaught.Proofs.Statistics

import SocketGraph.Engine
import SocketGraph.Script.Program
import SocketGraph.Tables.Builder
import SocketGraph.Component.Exposed
import SocketGraph.Text.Blank
import SocketGraph.ValueMap
import SocketGraph.Configuration
import SocketGraph.FileStore
import SocketGraph.CommandLine
import SocketGraph.Main
import SocketGraph.Proofs.Lifecycle
import SocketGraph.Proofs.Coherence
import SocketGraph.Proofs.Ownership
import SocketGraph.Proofs.Transparency
import SocketGraph.Proofs.Agreement
import SocketGraph.Proofs.Course
import SocketGraph.Proofs.Records
import SocketGraph.Proofs.Deliveries
import SocketGraph.Proofs.Propagations
import SocketGraph.Proofs.Reports
import SocketGraph.Proofs.Breadth
import SocketGraph.Proofs.Ceilings
import SocketGraph.Proofs.Lookups
import SocketGraph.Proofs.Termination
import SocketGraph.Proofs.Remembered
import SocketGraph.Proofs.Freshness
import SocketGraph.Proofs.Retained
import SocketGraph.Proofs.Sharing
import SocketGraph.Proofs.Isolation
import SocketGraph.Proofs.Keys
import SocketGraph.Proofs.Repeatable
import SocketGraph.Proofs.Gateways
import SocketGraph.Proofs.Unretracted
import SocketGraph.Proofs.Passing
import SocketGraph.Proofs.PassChains
import SocketGraph.Proofs.Surroundings
import SocketGraph.Proofs.Composition
import SocketGraph.Proofs.Returns
import SocketGraph.Proofs.Outlasting
import SocketGraph.Proofs.FanIn
import SocketGraph.Proofs.Registration
import SocketGraph.Proofs.Exposures
import SocketGraph.Proofs.Standby
import SocketGraph.Proofs.Undisturbed
import SocketGraph.Proofs.Requests
import SocketGraph.Proofs.Indexing
import SocketGraph.Proofs.Storage
import SocketGraph.Proofs.Additivity
import SocketGraph.Proofs.Arguments
import SocketGraph.Proofs.Assigned
import SocketGraph.Proofs.Canonical
import SocketGraph.Proofs.Usable

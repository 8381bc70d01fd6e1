import HostBridge.Document
import HostBridge.Main
import HostBridge.Proofs.Bridge.Admission
import HostBridge.Proofs.Bridge.Constructions
import HostBridge.Proofs.Bridge.Identities
import HostBridge.Proofs.Bridge.Invocations
import HostBridge.Proofs.Bridge.Resources
import HostBridge.Proofs.Bridge.Waiting
import HostBridge.Proofs.Documents
import HostBridge.Proofs.Domain.Assemblies
import HostBridge.Proofs.Domain.CallDepth
import HostBridge.Proofs.Domain.Collection
import HostBridge.Proofs.Domain.Constructions
import HostBridge.Proofs.Domain.Exceptions
import HostBridge.Proofs.Domain.Externs
import HostBridge.Proofs.Domain.Leftovers
import HostBridge.Proofs.Domain.Overloads
import HostBridge.Proofs.Domain.Receivers
import HostBridge.Proofs.Domain.RoundTrip
import HostBridge.Proofs.Domain.Selection
import HostBridge.Proofs.Domain.SweepOrders
import HostBridge.Proofs.Domain.Thunks
import HostBridge.Proofs.Domain.Tombstones
import HostBridge.Proofs.Host.TextFiles
import HostBridge.Proofs.Registration
import HostBridge.Proofs.SelfTest.Runs
import HostBridge.Session.Play
import HostBridge.Proofs.Blocks
import HostBridge.Proofs.Domain.Exceptions

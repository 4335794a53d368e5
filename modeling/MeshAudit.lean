import MeshAudit.Main
import MeshAudit.Settings.Manifest
import MeshAudit.Proofs.Graph.Contents
import MeshAudit.Proofs.Gateway.Overlap
import MeshAudit.Proofs.Route.SharedHost
import MeshAudit.Proofs.Analysis.Contents
import MeshAudit.Proofs.Analysis.References
import MeshAudit.Proofs.Analysis.DestinationRules
import MeshAudit.Proofs.Mtls.Inheritance
import MeshAudit.Proofs.Analysis.StatusAgreement
import MeshAudit.Proofs.Graph.Agreement
import MeshAudit.Proofs.Analysis.SnapshotOrder
import MeshAudit.Proofs.Gateway.Selector
import MeshAudit.Proofs.Analysis.Soundness
import MeshAudit.Proofs.Analysis.MergeOrder
import MeshAudit.Proofs.Route.HostForm
import MeshAudit.Proofs.Snapshot.Loading
import MeshAudit.Proofs.Graph.Comparison
import MeshAudit.Proofs.Analysis.Isolation
import MeshAudit.Proofs.Analysis.Growth
import MeshAudit.Proofs.CommandLine.ExitStatus
import MeshAudit.Proofs.Settings.Environment
import MeshAudit.Proofs.Gateway.Pattern
import MeshAudit.Proofs.Gateway.CommonName
import MeshAudit.Proofs.Gateway.HostPlace
import MeshAudit.Proofs.Route.Meeting
import MeshAudit.Proofs.Route.GatewayScope
import MeshAudit.Proofs.Route.Trimming
import MeshAudit.Proofs.Analysis.PeerAuthentications
import MeshAudit.Proofs.Analysis.Pruning
import MeshAudit.Proofs.Graph.SeverityFilter
import MeshAudit.Proofs.Mtls.Cascade
import MeshAudit.Proofs.Settings.WrongField
import MeshAudit.Proofs.Settings.ProblemReport
import MeshAudit.Proofs.Settings.Acceptance
import MeshAudit.Proofs.Mtls.NamespaceHost
import MeshAudit.Proofs.Gateway.Enumeration

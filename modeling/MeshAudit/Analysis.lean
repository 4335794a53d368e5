import MeshAudit.Gateway.Overlap
import MeshAudit.Mtls.Conflict
import MeshAudit.Route.SharedHost
import MeshAudit.Snapshot.Basic

/-!
# Analysis of a snapshot

The analysis runs all checks over a snapshot and merges their graphs. The mTLS report of a namespace
tells its own status, the status of the mesh and the two together.
-/

namespace MeshAudit

/-- The policy objects that decide the mTLS state of a namespace of a snapshot. -/
def Snapshot.policies (snapshot : Snapshot) (settings : MeshSettings) (ns : String) : Policies :=
  { own := snapshot.policiesOf ns
    root := snapshot.policiesOf settings.rootNamespace
    rules := snapshot.destinationRules }

namespace MeshSettings

/-- Findings about the gateways of a snapshot. -/
def gatewayFindings (_ : MeshSettings) (snapshot : Snapshot) : Graph :=
  gatewayGraph (byNamespace snapshot.gateways).flatten

/-- Findings about the virtual services of a snapshot, which conflict inside a namespace only. -/
def virtualServiceFindings (settings : MeshSettings) (snapshot : Snapshot) : Graph :=
  (byNamespace snapshot.virtualServices).foldl (fun graph services =>
    graph.merge (sharedHostGraph settings snapshot.namespaces services)) ∅

/-- Findings about the destination rules of a snapshot. -/
def destinationRuleFindings (settings : MeshSettings) (snapshot : Snapshot) : Graph :=
  destinationRuleGraph settings (snapshot.destinationRules.map fun rule =>
    (rule, snapshot.policies settings rule.ns))

/-- Findings about the peer authentications of a snapshot. -/
def peerAuthenticationFindings (settings : MeshSettings) (snapshot : Snapshot) : Graph :=
  peerAuthenticationGraph settings snapshot.peerAuthentications snapshot.destinationRules

/-- All findings about a snapshot. -/
def analyze (settings : MeshSettings) (snapshot : Snapshot) : Graph :=
  [settings.gatewayFindings snapshot, settings.virtualServiceFindings snapshot,
    settings.destinationRuleFindings snapshot, settings.peerAuthenticationFindings snapshot].foldl
      Graph.merge ∅

/-- Status of a namespace by its own policies alone. -/
def namespaceMtls (settings : MeshSettings) (snapshot : Snapshot) (ns : String) : ScopeStatus :=
  (snapshot.policies settings ns).namespaceStatus settings ns

/-- Status of the mesh. -/
def meshMtls (settings : MeshSettings) (snapshot : Snapshot) : ScopeStatus :=
  (snapshot.policies settings settings.rootNamespace).meshStatus settings

end MeshSettings

/-- The mTLS state of a namespace. -/
structure MtlsReport where
  /-- The namespace. -/
  ns : String
  /-- Status by its own policies alone. -/
  own : ScopeStatus
  /-- Status of the mesh. -/
  mesh : ScopeStatus
  /-- Status once the namespace inherits from the mesh. -/
  overall : MtlsStatus
  deriving DecidableEq, Repr

namespace MeshSettings

/-- The mTLS state of a namespace of a snapshot. -/
def mtlsReport (settings : MeshSettings) (snapshot : Snapshot) (ns : String) : MtlsReport :=
  let own := settings.namespaceMtls snapshot ns
  let mesh := settings.meshMtls snapshot
  ⟨ns, own, mesh, settings.overallStatus own mesh⟩

/-- Status of a namespace once it inherits from the mesh. -/
def overallMtls (settings : MeshSettings) (snapshot : Snapshot) (ns : String) : MtlsStatus :=
  (settings.mtlsReport snapshot ns).overall

end MeshSettings

end MeshAudit

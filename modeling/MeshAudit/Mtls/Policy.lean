import MeshAudit.Mtls.Status
import MeshAudit.Mesh.Object

/-!
# mTLS modes of policy objects

A peer authentication sets the mode of its namespace unless it is meant for some workloads only. A
destination rule sets the mode of the hosts it names; two forms of host stand for a whole
namespace and for the whole mesh. Of several objects of one scope the first that sets a mode counts.
-/

namespace MeshAudit

/-- Mode that a peer authentication sets for its whole namespace. A block without a mode means
nothing but mTLS, and a mode that is no text means none. -/
def peerAuthenticationMode (policy : MeshObject) : MtlsMode :=
  match policy.body? ["selector", "matchLabels"] with
  | some (.object (_ :: _)) => .unset
  | _ =>
    match policy.body? ["mtls"] with
    | some (.object fields) =>
      match fields.lookup "mode" with
      | some mode => (mode.asString?.map MtlsMode.ofWord).getD .unset
      | none => .strict
    | _ => .unset

/-- Mode that a destination rule sets for a host, which it has to name literally. -/
def destinationRuleMode (host : String) (rule : MeshObject) : MtlsMode :=
  if rule.bodyText? ["host"] = some host then
    ((rule.bodyText? ["trafficPolicy", "tls", "mode"]).map MtlsMode.ofWord).getD .unset
  else .unset

/-- A rule sets no mode for a host that it does not name. -/
theorem destinationRuleMode_of_ne {host : String} {rule : MeshObject}
    (h : rule.bodyText? ["host"] ≠ some host) : destinationRuleMode host rule = .unset := if_neg h

/-- Mode that a destination rule sets for every service of a namespace. -/
def namespaceWideMode (settings : MeshSettings) (ns : String) (rule : MeshObject) : MtlsMode :=
  destinationRuleMode (settings.namespaceWideHost ns) rule

/-- Mode that a destination rule sets for every service of the mesh. -/
def meshWideMode (rule : MeshObject) : MtlsMode := destinationRuleMode meshWideHost rule

/-- The policy objects that decide the mTLS state of a namespace. -/
structure Policies where
  /-- Peer authentications of the namespace. -/
  own : List MeshObject
  /-- Peer authentications of the root namespace. -/
  root : List MeshObject
  /-- All destination rules. -/
  rules : List MeshObject

namespace Policies

/-- Mode of the peer authentications of the namespace. -/
def ownPolicyMode (policies : Policies) : MtlsMode :=
  .firstSet (policies.own.map peerAuthenticationMode)

/-- Mode of the peer authentications of the mesh. -/
def meshPolicyMode (policies : Policies) : MtlsMode :=
  .firstSet (policies.root.map peerAuthenticationMode)

/-- Mode of the destination rules of a namespace. -/
def ownRuleMode (policies : Policies) (settings : MeshSettings) (ns : String) : MtlsMode :=
  .firstSet (policies.rules.map (namespaceWideMode settings ns))

/-- Mode of the destination rules of the mesh. -/
def meshRuleMode (policies : Policies) : MtlsMode :=
  .firstSet (policies.rules.map meshWideMode)

/-- Status of a namespace by its own policies alone. -/
def namespaceStatus (policies : Policies) (settings : MeshSettings) (ns : String) : ScopeStatus :=
  settings.scopeStatus (policies.ownRuleMode settings ns) policies.ownPolicyMode

/-- Status of the mesh. -/
def meshStatus (policies : Policies) (settings : MeshSettings) : ScopeStatus :=
  settings.meshStatus policies.meshRuleMode policies.meshPolicyMode

end Policies

end MeshAudit

import MeshAudit.Graph.Basic
import MeshAudit.Mesh.Host
import MeshAudit.Settings.Basic

/-!
# Hosts shared by virtual services

A virtual service claims each of its hosts on each of its gateways. A host that is claimed twice on
one gateway is shared, and a claim for all services of a namespace shadows every claim for a single
one there. Whoever takes part is warned and refers to the others.
-/

namespace MeshAudit

open Std

/-- What a virtual service claims with one host on one gateway. -/
structure HostClaim where
  /-- The gateway. -/
  gateway : String
  /-- Cluster of the host. -/
  cluster : String
  /-- Namespace of the host. -/
  ns : String
  /-- Service, or the whole name of a host outside the mesh. -/
  service : String
  deriving DecidableEq, Repr

namespace HostClaim

/-- Claims are compared by gateway, cluster, namespace and service. -/
def order : HostClaim → HostClaim → Ordering :=
  compareLex (compareOn gateway)
    (compareLex (compareOn cluster) (compareLex (compareOn ns) (compareOn service)))

instance : Ord HostClaim := ⟨order⟩

instance : TransOrd HostClaim := inferInstanceAs (TransCmp (compareLex _ _))

instance : LawfulEqOrd HostClaim where
  compare_self {_} := @ReflCmp.compare_self HostClaim (compareLex _ _) _ _
  eq_of_compare {a b} h := by
    have h : compareLex (compareOn gateway) (compareLex (compareOn cluster)
      (compareLex (compareOn ns) (compareOn service))) a b = .eq := h
    simp only [compareLex, compareOn, Ordering.then_eq_eq, LawfulEqCmp.compare_eq_iff_eq] at h
    obtain ⟨hg, hc, hn, hs⟩ := h
    cases a; cases b; simp_all

end HostClaim

/-- Gateway of a virtual service that names none. -/
def noGateway : String := "no-gateway"

/-- The service that stands for all services of a namespace. -/
def anyService : String := "*"

/-- Gateways that a virtual service applies to. -/
def effectiveGateways (service : MeshObject) : List String :=
  match (service.bodyTexts ["gateways"]).map Prod.snd with
  | [] => [noGateway]
  | gateways => gateways

/-- A virtual service applies to all gateways that it names, in their order, or else to the one that
stands for none. -/
theorem effectiveGateways_eq (service : MeshObject) :
    effectiveGateways service =
      if (service.bodyTexts ["gateways"]).map Prod.snd = [] then [noGateway]
      else (service.bodyTexts ["gateways"]).map Prod.snd := by
  unfold effectiveGateways
  cases (service.bodyTexts ["gateways"]).map Prod.snd <;> rfl

/-- Hosts of a virtual service after their short forms are expanded; hosts that lead nowhere are
left out. -/
def resolvedHosts (settings : MeshSettings) (known : List String) (service : MeshObject) :
    List ResolvedHost :=
  (service.bodyTexts ["hosts"]).filterMap fun host =>
    resolveHost settings.identityDomain known service.ns
      (service.clusterOr settings.identityDomain) host.2

/-- The claims of a virtual service, each with its key. -/
def hostClaims (settings : MeshSettings) (known : List String) (service : MeshObject) :
    List (HostClaim × ObjectKey) :=
  (resolvedHosts settings known service).flatMap fun host =>
    (effectiveGateways service).map fun gateway =>
      (⟨gateway, host.cluster, host.ns, host.service⟩, .ofObject service)

/-- Who makes a claim, as often as it is made. -/
def claimants (claims : List (HostClaim × ObjectKey)) (claim : HostClaim) : List ObjectKey :=
  (claims.filter fun made => made.1 = claim).map Prod.snd

/-- Who claims any host of a namespace. -/
def namespaceClaimants (claims : List (HostClaim × ObjectKey)) (ns : String) : List ObjectKey :=
  (claims.filter fun made => made.1.ns = ns).map Prod.snd

/-- Whether a namespace has a claim for all of its services beside one for a single service. -/
def isShadowed (claims : List (HostClaim × ObjectKey)) (ns : String) : Bool :=
  (claims.any fun made => made.1.ns = ns && made.1.service = anyService) &&
    claims.any fun made => made.1.ns = ns && made.1.service ≠ anyService

/-- The warning of a virtual service that takes part in a conflict with others. -/
def sharedHostEntry (key : ObjectKey) (others : List ObjectKey) : Entry :=
  (Entry.ofKey key).addFinding (Check.virtualServiceSingleHost.at "spec/hosts")
    |>.addReferences others

/-- Warnings of those who make a claim. -/
def claimEntries (claims : List (HostClaim × ObjectKey)) (claim : HostClaim) : List Entry :=
  let sharing := claimants claims claim
  sharing.flatMap fun key =>
    (if 1 < sharing.length then [sharedHostEntry key sharing] else []) ++
      (if isShadowed claims claim.ns then
        [sharedHostEntry key (namespaceClaimants claims claim.ns)] else [])

/-- Findings about hosts shared by virtual services. -/
def sharedHostGraph (settings : MeshSettings) (known : List String)
    (services : List MeshObject) : Graph :=
  let claims := services.flatMap (hostClaims settings known)
  .ofEntries ((SortedSet.ofList (claims.map Prod.fst)).toList.flatMap (claimEntries claims))

end MeshAudit

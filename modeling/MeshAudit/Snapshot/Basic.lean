import MeshAudit.Mesh.Object
import MeshAudit.Ordered.SortedSet

/-!
# Snapshots

A snapshot holds the objects of a mesh at one time, kind by kind and in the order they were given.
-/

namespace MeshAudit

/-- The objects of a mesh at one time. -/
structure Snapshot where
  /-- The gateways. -/
  gateways : List MeshObject
  /-- The virtual services. -/
  virtualServices : List MeshObject
  /-- The destination rules. -/
  destinationRules : List MeshObject
  /-- The peer authentications. -/
  peerAuthentications : List MeshObject

namespace Snapshot

/-- The snapshot of a list of objects. -/
def ofObjects (objects : List MeshObject) : Snapshot :=
  let ofKind := fun kind => objects.filter fun object => object.kind = kind
  { gateways := ofKind .gateway
    virtualServices := ofKind .virtualService
    destinationRules := ofKind .destinationRule
    peerAuthentications := ofKind .peerAuthentication }

/-- All objects, kind by kind. -/
def objects (snapshot : Snapshot) : List MeshObject :=
  snapshot.gateways ++ snapshot.virtualServices ++ snapshot.destinationRules ++
    snapshot.peerAuthentications

/-- Number of objects. -/
def size (snapshot : Snapshot) : Nat := snapshot.objects.length

/-- The namespaces that own an object, in order. -/
def namespaces (snapshot : Snapshot) : List String :=
  (SortedSet.ofList (snapshot.objects.map MeshObject.ns)).toList

/-- The peer authentications of a namespace. -/
def policiesOf (snapshot : Snapshot) (ns : String) : List MeshObject :=
  snapshot.peerAuthentications.filter fun policy => policy.ns = ns

/-- A namespace has the peer authentications that name it as theirs. -/
theorem mem_policiesOf {snapshot : Snapshot} {ns : String} {policy : MeshObject} :
    policy ∈ snapshot.policiesOf ns ↔ policy ∈ snapshot.peerAuthentications ∧ policy.ns = ns := by
  simp [policiesOf]

/-- The peer authentications of a namespace come in the order of all objects. -/
theorem policiesOf_ofObjects (objects : List MeshObject) (ns : String) :
    (ofObjects objects).policiesOf ns =
      objects.filter fun object => object.kind = .peerAuthentication ∧ object.ns = ns := by
  simp [policiesOf, ofObjects, List.filter_filter, and_comm]

end Snapshot

/-- Objects by namespace, namespaces in order and objects of one in their own order. -/
def byNamespace (objects : List MeshObject) : List (List MeshObject) :=
  (SortedSet.ofList (objects.map MeshObject.ns)).toList.map fun ns =>
    objects.filter fun object => object.ns = ns

end MeshAudit

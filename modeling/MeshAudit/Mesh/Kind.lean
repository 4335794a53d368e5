import MeshAudit.UnknownWord

/-!
# Object kinds

Four kinds of control-plane objects take part in the analysis. They are ordered as they are listed
here, which is the order of their findings in every report.
-/

namespace MeshAudit

open Std

/-- Kinds of mesh objects. -/
inductive Kind where
  /-- Exposes hosts and ports at the edge of the mesh. -/
  | gateway
  /-- Routes requests for hosts. -/
  | virtualService
  /-- Sets the traffic policy of a destination. -/
  | destinationRule
  /-- Sets which traffic a workload accepts. -/
  | peerAuthentication
  deriving DecidableEq, Repr

namespace Kind

/-- All kinds in order. -/
def all : List Kind := [gateway, virtualService, destinationRule, peerAuthentication]

/-- Name of the kind in keys and reports. -/
def label : Kind → String
  | gateway => "gateway"
  | virtualService => "virtualservice"
  | destinationRule => "destinationrule"
  | peerAuthentication => "peerauthentication"

/-- Name of the kind in object manifests. -/
def resource : Kind → String
  | gateway => "Gateway"
  | virtualService => "VirtualService"
  | destinationRule => "DestinationRule"
  | peerAuthentication => "PeerAuthentication"

/-- The kind with a name in either style; ASCII letters match in either case. -/
def ofWord (word : String) : Except UnknownWord Kind :=
  match all.find? fun kind => kind.label = word.toLower with
  | some kind => .ok kind
  | none => .error (.kind word)

/-- Place of the kind in the order. -/
def rank : Kind → Nat
  | gateway => 0
  | virtualService => 1
  | destinationRule => 2
  | peerAuthentication => 3

instance : Ord Kind := ⟨compareOn rank⟩

instance : TransOrd Kind := inferInstanceAs (TransCmp (compareOn rank))

instance : LawfulEqOrd Kind where
  compare_self {_} := @ReflCmp.compare_self Kind (compareOn rank) _ _
  eq_of_compare {a b} h := by
    have h : compare a.rank b.rank = .eq := h
    have h := LawfulEqCmp.eq_of_compare h
    cases a <;> cases b <;> simp_all [rank]

end Kind

end MeshAudit

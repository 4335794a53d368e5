import MeshAudit.Gateway.Binding
import MeshAudit.Graph.Basic
import MeshAudit.Mesh.Selector

/-!
# Overlapping gateways

Gateways with one selector are served by the same workloads. Where two of their bindings overlap,
the routing is undefined: both bindings get a finding, and their gateways refer to each other.
-/

namespace MeshAudit

/-- A binding with the selector of its gateway. -/
structure ScopedBinding where
  /-- Text of the selector. -/
  selector : String
  /-- The binding. -/
  binding : HostBinding
  deriving DecidableEq, Repr

/-- The bindings of a gateway with its selector. -/
def scopedBindings (gateway : MeshObject) : List ScopedBinding :=
  (hostBindings gateway).map fun binding =>
    ⟨canonicalSelector (gateway.body? ["selector"]), binding⟩

/-- Without their selectors the bindings are those of the gateway. -/
theorem map_binding_scopedBindings (gateway : MeshObject) :
    (scopedBindings gateway).map ScopedBinding.binding = hostBindings gateway := by
  simp [scopedBindings, Function.comp_def]

/-- A gateway has its own bindings, each with the text of its selector. -/
theorem mem_scopedBindings {gateway : MeshObject} {b : ScopedBinding} :
    b ∈ scopedBindings gateway ↔
      b.binding ∈ hostBindings gateway ∧
        b.selector = canonicalSelector (gateway.body? ["selector"]) := by
  obtain ⟨selector, binding⟩ := b
  simp [scopedBindings, eq_comm]

/-- Whether two bindings are served together and overlap. -/
def ScopedBinding.conflicts (b c : ScopedBinding) : Bool :=
  b.selector = c.selector && b.binding.overlaps c.binding

/-- What one binding of a conflict contributes: a finding at the binding and a reference to the
gateway of the other one. -/
def HostBinding.conflictEntry (binding other : HostBinding) : Entry :=
  (Entry.ofKey binding.owner).addFinding (Check.gatewayMultiMatch.at binding.path)
    |>.addReference other.owner

/-- What a binding and each earlier one in conflict with it contribute. -/
def conflictEntries (earlier : List ScopedBinding) (b : ScopedBinding) : List Entry :=
  (earlier.filter b.conflicts).flatMap fun p =>
    [b.binding.conflictEntry p.binding, p.binding.conflictEntry b.binding]

/-- What the conflicts of a list of bindings contribute, given the bindings before it. -/
def overlapEntries (earlier : List ScopedBinding) : List ScopedBinding → List Entry
  | [] => []
  | b :: rest => conflictEntries earlier b ++ overlapEntries (earlier ++ [b]) rest

/-- Findings about overlapping gateways. -/
def gatewayGraph (gateways : List MeshObject) : Graph :=
  .ofEntries (overlapEntries [] (gateways.flatMap scopedBindings))

end MeshAudit

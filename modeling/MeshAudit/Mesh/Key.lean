import MeshAudit.Mesh.Object

/-!
# Object keys

An object is identified by its kind, namespace and name, compared in this order.
-/

namespace MeshAudit

open Std

/-- Identity of an object in a report. -/
structure ObjectKey where
  /-- Kind of the object. -/
  kind : Kind
  /-- Namespace of the object. -/
  ns : String
  /-- Name of the object. -/
  name : String
  deriving DecidableEq, Repr

namespace ObjectKey

/-- The key of an object. -/
def ofObject (object : MeshObject) : ObjectKey := ⟨object.kind, object.ns, object.name⟩

/-- Kind, namespace and name with slashes between them. -/
def text (key : ObjectKey) : String := s!"{key.kind.label}/{key.ns}/{key.name}"

/-- Keys are compared by kind, then namespace, then name. -/
def order : ObjectKey → ObjectKey → Ordering :=
  compareLex (compareOn kind) (compareLex (compareOn ns) (compareOn name))

instance : Ord ObjectKey := ⟨order⟩

instance : TransOrd ObjectKey := inferInstanceAs (TransCmp (compareLex _ _))

instance : LawfulEqOrd ObjectKey where
  compare_self {_} := @ReflCmp.compare_self ObjectKey (compareLex _ _) _ _
  eq_of_compare {a b} h := by
    have h : compareLex (compareOn kind) (compareLex (compareOn ns) (compareOn name)) a b = .eq := h
    simp only [compareLex, compareOn, Ordering.then_eq_eq, LawfulEqCmp.compare_eq_iff_eq] at h
    obtain ⟨hk, hs, hn⟩ := h
    cases a; cases b; simp_all

end ObjectKey

end MeshAudit

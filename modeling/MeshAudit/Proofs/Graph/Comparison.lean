import Mathlib.Data.List.Perm.Subperm
import MeshAudit.Proofs.Graph.Agreement
import MeshAudit.Proofs.Graph.Soundness

/-!
# Comparing sound graphs

In a sound graph the findings and the references of an object decide its whole entry. So two sound
graphs are compared by these two alone, whether the entries are to be the same or one graph is to
hold at least what the other does.
-/

namespace MeshAudit

/-- Another entry of the same object says at least as much: it has the findings of this one, as
often each, and its references, and is invalid if this one is. -/
structure Entry.Within (entry other : Entry) : Prop where
  /-- The same object. -/
  key : other.key = entry.key
  /-- All findings, as often each. -/
  findings : entry.findings.Subperm other.findings
  /-- All references. -/
  references : ∀ key ∈ entry.references, key ∈ other.references
  /-- What is invalid stays so. -/
  invalid : entry.valid = false → other.valid = false

namespace Graph

/-- Another graph says at least as much of each object as this one. -/
def Within (graph other : Graph) : Prop :=
  ∀ entry ∈ graph.entries, ∃ grown ∈ other.entries, entry.Within grown

/-- An object is invalid in a sound graph when one of its findings is an error. -/
theorem Sound.isValid_eq_false_iff {graph : Graph} (sound : graph.Sound) {key : ObjectKey} :
    graph.isValid key = false ↔ ∃ finding ∈ graph.findings key, finding.severity = .error := by
  rw [← Bool.not_eq_true, sound.consistent.isValid_iff]
  simp only [ne_eq, not_forall, not_not, exists_prop]

/-- Two sound graphs with the same findings and references of an object have the same entry. -/
theorem Sound.get?_eq_of_same {graph other : Graph} (sound : graph.Sound)
    (soundOther : other.Sound) {key : ObjectKey}
    (findings : graph.findings key = other.findings key)
    (references : ∀ x, x ∈ graph.references key ↔ x ∈ other.references key) :
    graph.get? key = other.get? key := by
  have hvalid : graph.isValid key = other.isValid key := by
    rw [← Bool.not_inj_iff, Bool.eq_iff_iff]
    simp only [Bool.not_eq_true', sound.isValid_eq_false_iff, soundOther.isValid_eq_false_iff,
      findings]
  rw [sound.full.get?_eq, soundOther.full.get?_eq, findings, hvalid,
    SortedSet.ext_mem references]

/-- A sound graph with at least the findings and the references of another one says at least as
much: an object that has findings keeps an entry, and one with an error among them stays invalid. -/
theorem Within.of_sound {graph other : Graph} (sound : graph.Sound) (soundOther : other.Sound)
    (findings : ∀ key, (graph.findings key).Subperm (other.findings key))
    (references : ∀ key x, x ∈ graph.references key → x ∈ other.references key) :
    graph.Within other := by
  intro entry hentry
  have hfindings := findings entry.key
  have hreferences := references entry.key
  rw [findings_of_mem hentry] at hfindings
  have hne : other.findings entry.key ≠ [] := fun hnil =>
    sound.full entry hentry (List.subperm_nil.1 (hnil ▸ hfindings))
  obtain ⟨grown, hgrown⟩ := Option.isSome_iff_exists.1 (soundOther.full.contains_iff.2 hne)
  obtain ⟨hmem, hkey⟩ := get?_eq_some_iff.1 hgrown
  rw [← hkey, findings_of_mem hmem] at hfindings
  refine ⟨grown, hmem, hkey, hfindings, fun key hkeyMem => ?_, fun hinvalid => ?_⟩
  · have hx := hreferences key (mem_references_iff.2 ⟨entry, hentry, rfl, hkeyMem⟩)
    simpa [Graph.references, hgrown] using hx
  · obtain ⟨finding, hfinding, herror⟩ := (sound.entries entry hentry).invalid_iff.1 hinvalid
    exact (soundOther.entries grown hmem).invalid_iff.2 ⟨finding, hfindings.subset hfinding, herror⟩

end Graph

end MeshAudit

import MeshAudit.Proofs.Graph.Contents

/-!
# Graphs that say the same

A graph in which every entry has findings is determined by what it knows about each object. Two
graphs agree when they know the same up to the order of the findings of an object: graphs of one
collection of entries taken in in two orders do, and merging keeps agreement.
-/

namespace MeshAudit

open Std

namespace Graph

/-! ### Equality -/

/-- Two graphs with the same entry for each object are equal. -/
theorem ext_get? {graph other : Graph} (h : ∀ key, graph.get? key = other.get? key) :
    graph = other := by
  have hmem : ∀ entry, entry ∈ graph.entries ↔ entry ∈ other.entries := by
    intro entry
    have hleft := @get?_eq_some_iff graph entry.key entry
    have hright := @get?_eq_some_iff other entry.key entry
    simp only [and_true] at hleft hright
    rw [← hleft, ← hright, h]
  refine ext (eq_of_pairwise_of_mem_iff (fun a b hab hba => ?_) graph.sorted other.sorted hmem)
  exact OrientedCmp.not_lt_of_lt hab hba

/-- The entry of an object holds what the graph knows about it. -/
theorem HasFindings.get?_eq {graph : Graph} (full : graph.HasFindings) (key : ObjectKey) :
    graph.get? key =
      if graph.findings key = [] then none
      else some ⟨key, graph.isValid key, graph.findings key, graph.references key⟩ := by
  cases hg : graph.get? key with
  | none => simp [findings, hg]
  | some entry =>
    obtain ⟨hmem, rfl⟩ := get?_eq_some_iff.1 hg
    have hfindings := full entry hmem
    simp [findings, isValid, references, hg, hfindings]

/-- Two graphs without empty entries are equal when they know the same about each object. -/
theorem HasFindings.ext {graph other : Graph} (full : graph.HasFindings)
    (fullOther : other.HasFindings) (isValid : ∀ key, graph.isValid key = other.isValid key)
    (references : ∀ key, graph.references key = other.references key)
    (findings : ∀ key, graph.findings key = other.findings key) : graph = other := by
  refine ext_get? fun key => ?_
  rw [full.get?_eq, fullOther.get?_eq, isValid, references, findings]

/-! ### Agreement -/

/-- The objects with an entry are those listed. -/
theorem mem_keys {graph : Graph} {key : ObjectKey} :
    key ∈ graph.keys ↔ graph.contains key = true := by
  rw [keys, contains, Option.isSome_iff_exists, List.mem_map]
  simp only [get?_eq_some_iff]

/-- Two graphs list the same objects when the same ones have an entry. -/
theorem keys_eq {graph other : Graph}
    (h : ∀ key, graph.contains key = true ↔ other.contains key = true) :
    graph.keys = other.keys := by
  have hsorted : ∀ graph : Graph, graph.keys.Pairwise fun a b => compare a b = .lt :=
    fun graph => List.pairwise_map.2 graph.sorted
  refine eq_of_pairwise_of_mem_iff (fun a b hab hba => ?_) (hsorted graph) (hsorted other) ?_
  · exact OrientedCmp.not_lt_of_lt hab hba
  · intro key
    rw [mem_keys, mem_keys, h]

/-- Two graphs say the same: they list the same objects, and each has the same references, the same
findings in some order, and is valid in both or in neither. -/
structure Agrees (graph other : Graph) : Prop where
  /-- The same objects have an entry. -/
  keys : graph.keys = other.keys
  /-- The same objects are valid. -/
  isValid : ∀ key, graph.isValid key = other.isValid key
  /-- The same objects are referred to. -/
  references : ∀ key, graph.references key = other.references key
  /-- The findings are the same, perhaps in another order. -/
  findings : ∀ key, (graph.findings key).Perm (other.findings key)

theorem Agrees.refl (graph : Graph) : graph.Agrees graph :=
  ⟨rfl, fun _ => rfl, fun _ => rfl, fun _ => .refl _⟩

/-- Graphs without empty entries agree when they know the same about each object. -/
theorem Agrees.of_full {graph other : Graph} (full : graph.HasFindings)
    (fullOther : other.HasFindings)
    (isValid : ∀ key, graph.isValid key = true ↔ other.isValid key = true)
    (references : ∀ key x, x ∈ graph.references key ↔ x ∈ other.references key)
    (findings : ∀ key, (graph.findings key).Perm (other.findings key)) : graph.Agrees other where
  keys := by
    refine keys_eq fun key => ?_
    rw [full.contains_iff, fullOther.contains_iff, ← List.length_pos_iff, ← List.length_pos_iff,
      (findings key).length_eq]
  isValid key := Bool.eq_iff_iff.2 (isValid key)
  references key := SortedSet.ext_mem (references key)
  findings := findings

/-- The graph of a list of entries says the same in every order of the list. -/
theorem agrees_ofEntries {entries other : List Entry} (h : entries.Perm other) :
    (ofEntries entries).Agrees (ofEntries other) := by
  refine .of_full (hasFindings_ofEntries _) (hasFindings_ofEntries _) ?_ ?_ ?_
  · intro key
    simp only [isValid_ofEntries, h.mem_iff]
  · intro key x
    simp only [mem_references_ofEntries, h.mem_iff]
  · intro key
    rw [findings_ofEntries, findings_ofEntries]
    exact (h.filter _).flatMap_right _

/-- Merging keeps agreement. -/
theorem Agrees.merge {graph other added addedOther : Graph} (h : graph.Agrees other)
    (hadded : added.Agrees addedOther) (full : graph.HasFindings) (fullOther : other.HasFindings)
    (fullAdded : added.HasFindings) (fullAddedOther : addedOther.HasFindings) :
    (graph.merge added).Agrees (other.merge addedOther) := by
  refine .of_full (full.merge _) (fullOther.merge _) ?_ ?_ ?_
  · intro key
    rw [isValid_merge fullAdded, isValid_merge fullAddedOther, h.isValid, hadded.isValid]
  · intro key x
    rw [mem_references_merge fullAdded, mem_references_merge fullAddedOther, h.references,
      hadded.references]
  · intro key
    rw [findings_merge, findings_merge]
    exact (h.findings key).append (hadded.findings key)

/-- Merging in several graphs one by one keeps agreement. -/
theorem Agrees.foldl_merge {α : Type} {f g : α → Graph} (each : ∀ a, (f a).Agrees (g a))
    (full : ∀ a, (f a).HasFindings) (fullOther : ∀ a, (g a).HasFindings) (xs : List α)
    {graph other : Graph} (h : graph.Agrees other) (hfull : graph.HasFindings)
    (hfullOther : other.HasFindings) :
    ((xs.map f).foldl Graph.merge graph).Agrees ((xs.map g).foldl Graph.merge other) := by
  induction xs generalizing graph other with
  | nil => exact h
  | cons x rest ih =>
    have hnext := h.merge (each x) hfull hfullOther (full x) (fullOther x)
    exact ih hnext (hfull.merge _) (hfullOther.merge _)

end Graph

end MeshAudit

import MeshAudit.Graph.Entry

/-!
# Validation graphs

A validation graph holds one entry per object with findings, in the order of the object keys. An
entry without findings is never taken in. Graphs made apart from one another can be merged.
-/

namespace MeshAudit

open Std

/-- Put an entry into its place by key, merged into an entry that is already there. -/
def mergeSorted (entry : Entry) : List Entry → List Entry
  | [] => [entry]
  | held :: rest =>
    match compare entry.key held.key with
    | .lt => entry :: held :: rest
    | .eq => held.merge entry :: rest
    | .gt => held :: mergeSorted entry rest

/-- The keys of a list of entries increase strictly. -/
abbrev KeysSorted (entries : List Entry) : Prop :=
  entries.Pairwise fun a b => compare a.key b.key = .lt

/-- Every key after a merge is a held one or the new one. -/
theorem key_of_mem_mergeSorted {entry x : Entry} {entries : List Entry}
    (h : x ∈ mergeSorted entry entries) : x.key = entry.key ∨ ∃ y ∈ entries, x.key = y.key := by
  induction entries with
  | nil => simp_all [mergeSorted]
  | cons held rest ih =>
    unfold mergeSorted at h
    split at h
    · rcases List.mem_cons.1 h with rfl | h
      · exact .inl rfl
      · exact .inr ⟨x, h, rfl⟩
    · rcases List.mem_cons.1 h with rfl | h
      · exact .inr ⟨held, by simp, rfl⟩
      · exact .inr ⟨x, by simp [h], rfl⟩
    · rcases List.mem_cons.1 h with rfl | h
      · exact .inr ⟨x, by simp, rfl⟩
      · rcases ih h with h | ⟨y, hy, h⟩
        · exact .inl h
        · exact .inr ⟨y, by simp [hy], h⟩

/-- Merging keeps the keys increasing. -/
theorem KeysSorted.mergeSorted {entry : Entry} {entries : List Entry}
    (sorted : KeysSorted entries) : KeysSorted (mergeSorted entry entries) := by
  induction entries with
  | nil => simp [MeshAudit.mergeSorted]
  | cons held rest ih =>
    obtain ⟨below, tail⟩ := List.pairwise_cons.1 sorted
    unfold MeshAudit.mergeSorted
    split
    · next h =>
      refine List.pairwise_cons.2 ⟨fun x hx => ?_, sorted⟩
      rcases List.mem_cons.1 hx with rfl | hx
      · exact h
      · exact TransCmp.lt_trans h (below x hx)
    · exact List.pairwise_cons.2 ⟨below, tail⟩
    · next h =>
      refine List.pairwise_cons.2 ⟨fun x hx => ?_, ih tail⟩
      rcases key_of_mem_mergeSorted hx with hx | ⟨y, hy, hx⟩
      · exact hx ▸ OrientedCmp.gt_iff_lt.1 h
      · exact hx ▸ below y hy

/-- The entries of the objects with findings. -/
structure Graph where
  /-- The entries in the order of their keys. -/
  entries : List Entry
  /-- No two entries have the same key. -/
  sorted : KeysSorted entries

namespace Graph

/-- Two graphs are equal when they list the same entries. -/
theorem ext {g h : Graph} (eq : g.entries = h.entries) : g = h := by
  cases g; cases h; cases eq; rfl

instance : DecidableEq Graph := fun g h =>
  if eq : g.entries = h.entries then isTrue (ext eq)
  else isFalse fun gh => eq (congrArg entries gh)

/-- The graph without entries. -/
def empty : Graph := ⟨[], List.Pairwise.nil⟩

instance : EmptyCollection Graph := ⟨empty⟩

instance : Inhabited Graph := ⟨empty⟩

/-- Take in one entry; an entry without findings changes nothing. -/
def mergeEntry (graph : Graph) (entry : Entry) : Graph :=
  if entry.findings = [] then graph else ⟨mergeSorted entry graph.entries, graph.sorted.mergeSorted⟩

/-- The graph of a list of entries, taken in one after another. -/
def ofEntries (entries : List Entry) : Graph := entries.foldl mergeEntry ∅

/-- Take in every entry of another graph. -/
def merge (graph other : Graph) : Graph := other.entries.foldl mergeEntry graph

/-- The entry of an object. -/
def get? (graph : Graph) (key : ObjectKey) : Option Entry :=
  graph.entries.find? fun entry => entry.key = key

/-- Whether an object has an entry. -/
def contains (graph : Graph) (key : ObjectKey) : Bool := (graph.get? key).isSome

/-- The objects with an entry, in order. -/
def keys (graph : Graph) : List ObjectKey := graph.entries.map Entry.key

/-- Number of entries. -/
def size (graph : Graph) : Nat := graph.entries.length

/-- Whether no object has an entry. -/
def isEmpty (graph : Graph) : Bool := graph.entries.isEmpty

/-- Number of findings of all entries. -/
def findingCount (graph : Graph) : Nat :=
  graph.entries.foldl (fun count entry => count + entry.findings.length) 0

/-- Whether all entries are valid. -/
def allValid (graph : Graph) : Bool := graph.entries.all Entry.valid

/-- The entry with only the findings that pass a filter. -/
def keepFindings (minimum : Severity) (entry : Entry) : Entry :=
  { entry with findings := entry.findings.filter fun finding => finding.severity.atLeast minimum }

/-- The graph with only the findings that pass a filter; entries left without findings are
dropped, the others keep their references and whether they are valid. -/
def filterSeverity (graph : Graph) (minimum : Severity) : Graph :=
  ofEntries (graph.entries.map (keepFindings minimum))

/-- An entry without findings changes nothing. -/
@[simp] theorem mergeEntry_of_findings_eq_nil {graph : Graph} {entry : Entry}
    (h : entry.findings = []) : graph.mergeEntry entry = graph := by
  simp [mergeEntry, h]

end Graph

end MeshAudit

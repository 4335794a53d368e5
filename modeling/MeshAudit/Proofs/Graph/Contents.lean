import Mathlib.Algebra.GroupWithZero.Nat
import MeshAudit.Graph.Basic

/-!
# Contents of validation graphs

What a graph knows about an object is read through its findings, its references and whether it is
valid. Taking in entries appends the findings of the entries of the object, unites the references of
those that have findings, and keeps the object valid as long as they all are. Merging two graphs and
filtering one are described in the same terms.
-/

namespace MeshAudit

open Std

/-- An entry after another one of its object is taken in, where there may be none before. -/
def Entry.absorb (held : Option Entry) (entry : Entry) : Entry :=
  match held with
  | some held => held.merge entry
  | none => entry

/-- No entry of an increasing list has a key below that of its head. -/
theorem find?_eq_none_of_lt {key : ObjectKey} {entries : List Entry}
    (below : ∀ x ∈ entries, compare key x.key = .lt) :
    entries.find? (fun x => x.key = key) = none := by
  rw [List.find?_eq_none]
  intro x hx
  have hlt := below x hx
  have hne : x.key ≠ key := by
    intro he
    rw [he, compare_self] at hlt
    exact absurd hlt (by decide)
  simpa using hne

/-- Sorted merging changes what is found under the key of the new entry, and nothing else. -/
theorem find?_mergeSorted {entry : Entry} {entries : List Entry} (sorted : KeysSorted entries)
    (key : ObjectKey) :
    (mergeSorted entry entries).find? (fun x => x.key = key) =
      if entry.key = key then some (Entry.absorb (entries.find? fun x => x.key = key) entry)
      else entries.find? fun x => x.key = key := by
  induction entries with
  | nil => by_cases hk : entry.key = key <;> simp [mergeSorted, hk, Entry.absorb]
  | cons held rest ih =>
    obtain ⟨below, tail⟩ := List.pairwise_cons.1 sorted
    cases hc : compare entry.key held.key with
    | lt =>
      have hall : ∀ x ∈ held :: rest, compare entry.key x.key = .lt := by
        intro x hx
        rcases List.mem_cons.1 hx with rfl | hx
        · exact hc
        · exact TransCmp.lt_trans hc (below x hx)
      have hnone := find?_eq_none_of_lt hall
      by_cases hk : entry.key = key
      · subst hk
        rw [hnone]
        simp [mergeSorted, hc, Entry.absorb]
      · simp [mergeSorted, hc, hk]
    | eq =>
      have he : entry.key = held.key := LawfulEqCmp.eq_of_compare hc
      simp only [mergeSorted, hc]
      by_cases hk : held.key = key <;> simp [he, hk, Entry.absorb]
    | gt =>
      have hne : entry.key ≠ held.key := by
        intro he
        rw [he, compare_self] at hc
        exact absurd hc (by decide)
      have ht := ih tail
      simp only [mergeSorted, hc]
      by_cases hk : held.key = key
      · have hek : entry.key ≠ key := fun h => hne (h.trans hk.symm)
        simp [hk, hek]
      · simp [hk, ht]

/-- At most one entry of an increasing list has a given key. -/
theorem filter_key_of_sorted {entries : List Entry} (sorted : KeysSorted entries)
    (key : ObjectKey) :
    entries.filter (fun x => x.key = key) = (entries.find? fun x => x.key = key).toList := by
  induction entries with
  | nil => rfl
  | cons held rest ih =>
    obtain ⟨below, tail⟩ := List.pairwise_cons.1 sorted
    have ht := ih tail
    by_cases hk : held.key = key
    · have hbelow : ∀ x ∈ rest, compare key x.key = .lt := by simpa only [hk] using below
      have hnone := find?_eq_none_of_lt hbelow
      rw [hnone] at ht
      simp [hk, ht]
    · simp [hk, ht]

namespace Graph

/-- The findings of an object; an object without an entry has none. -/
def findings (graph : Graph) (key : ObjectKey) : List Finding :=
  ((graph.get? key).map Entry.findings).getD []

/-- The objects that an object refers to; an object without an entry refers to none. -/
def references (graph : Graph) (key : ObjectKey) : SortedSet ObjectKey :=
  ((graph.get? key).map Entry.references).getD ∅

/-- Whether an object is valid; an object without an entry is. -/
def isValid (graph : Graph) (key : ObjectKey) : Bool :=
  ((graph.get? key).map Entry.valid).getD true

/-- The empty graph has nothing to say of an object. -/
@[simp] theorem findings_empty (key : ObjectKey) : (∅ : Graph).findings key = [] := rfl

@[simp] theorem not_mem_references_empty (key x : ObjectKey) :
    ¬ x ∈ (∅ : Graph).references key := List.not_mem_nil

theorem contains_empty (key : ObjectKey) : (∅ : Graph).contains key = false := rfl

@[simp] theorem isValid_empty (key : ObjectKey) : (∅ : Graph).isValid key = true := rfl

@[simp] theorem findingCount_empty : (∅ : Graph).findingCount = 0 := rfl

/-! ### One entry -/

/-- Taking in an entry with findings changes the entry of its own object only. -/
theorem get?_mergeEntry (graph : Graph) (entry : Entry) (key : ObjectKey) :
    (graph.mergeEntry entry).get? key =
      if entry.findings ≠ [] ∧ entry.key = key then some (Entry.absorb (graph.get? key) entry)
      else graph.get? key := by
  by_cases hf : entry.findings = []
  · simp [hf]
  · have hs := @find?_mergeSorted entry graph.entries graph.sorted key
    simpa [mergeEntry, get?, hf] using hs

/-- The findings of an entry follow those its object has already. -/
theorem findings_mergeEntry (graph : Graph) (entry : Entry) (key : ObjectKey) :
    (graph.mergeEntry entry).findings key =
      graph.findings key ++ if entry.key = key then entry.findings else [] := by
  unfold findings
  rw [get?_mergeEntry]
  by_cases hf : entry.findings = []
  · simp [hf]
  · by_cases hk : entry.key = key
    · cases hg : graph.get? key <;> simp [hf, hk, Entry.absorb, Entry.merge]
    · simp [hk]

/-- The references of an entry with findings are united with those its object has already. -/
theorem mem_references_mergeEntry {graph : Graph} {entry : Entry} {key x : ObjectKey} :
    x ∈ (graph.mergeEntry entry).references key ↔
      x ∈ graph.references key ∨
        entry.key = key ∧ entry.findings ≠ [] ∧ x ∈ entry.references := by
  unfold references
  rw [get?_mergeEntry]
  by_cases hf : entry.findings = []
  · simp [hf]
  · by_cases hk : entry.key = key
    · cases hg : graph.get? key with
      | none => simp [hf, hk, Entry.absorb]
      | some held => simp [hf, hk, Entry.absorb, Entry.merge]
    · simp [hk]

/-- An object stays valid when the new entry, if it has findings, is valid. -/
theorem isValid_mergeEntry {graph : Graph} {entry : Entry} {key : ObjectKey} :
    (graph.mergeEntry entry).isValid key = true ↔
      graph.isValid key = true ∧
        (entry.key = key → entry.findings ≠ [] → entry.valid = true) := by
  unfold isValid
  rw [get?_mergeEntry]
  by_cases hf : entry.findings = []
  · simp [hf]
  · by_cases hk : entry.key = key
    · cases hg : graph.get? key <;> simp [hf, hk, Entry.absorb, Entry.merge]
    · simp [hk]

/-- An entry with findings is there afterwards, and so are all entries from before. -/
theorem contains_mergeEntry {graph : Graph} {entry : Entry} {key : ObjectKey} :
    (graph.mergeEntry entry).contains key = true ↔
      graph.contains key = true ∨ entry.key = key ∧ entry.findings ≠ [] := by
  unfold contains
  rw [get?_mergeEntry]
  by_cases h : entry.findings ≠ [] ∧ entry.key = key
  · simp [h]
  · rw [if_neg h]
    have hn : ¬ (entry.key = key ∧ entry.findings ≠ []) := fun h' => h h'.symm
    simp only [hn, or_false]

/-- Sorted merging adds the findings of the new entry to the total. -/
theorem sum_findings_mergeSorted (entry : Entry) (entries : List Entry) :
    ((mergeSorted entry entries).map fun x => x.findings.length).sum =
      (entries.map fun x => x.findings.length).sum + entry.findings.length := by
  induction entries with
  | nil => simp [mergeSorted]
  | cons held rest ih =>
    unfold mergeSorted
    split
    · simp only [List.map_cons, List.sum_cons]
      omega
    · simp only [List.map_cons, List.sum_cons, Entry.merge, List.length_append]
      omega
    · simp only [List.map_cons, List.sum_cons, ih]
      omega

/-- The number of findings is the sum over all entries. -/
theorem findingCount_eq_sum (graph : Graph) :
    graph.findingCount = (graph.entries.map fun entry => entry.findings.length).sum := by
  rw [findingCount, List.sum_eq_foldl_nat, List.foldl_map]

/-- The number of findings grows by those of the new entry. -/
theorem findingCount_mergeEntry (graph : Graph) (entry : Entry) :
    (graph.mergeEntry entry).findingCount = graph.findingCount + entry.findings.length := by
  by_cases hf : entry.findings = []
  · simp [hf]
  · have hs := sum_findings_mergeSorted entry graph.entries
    simpa [mergeEntry, findingCount_eq_sum, hf] using hs

/-! ### Entries one after another -/

/-- Entries taken in one after another append the findings of each object in their order. -/
theorem findings_foldl_mergeEntry (entries : List Entry) (graph : Graph) (key : ObjectKey) :
    (entries.foldl mergeEntry graph).findings key =
      graph.findings key ++
        (entries.filter fun entry => entry.key = key).flatMap Entry.findings := by
  induction entries generalizing graph with
  | nil => simp
  | cons entry rest ih =>
    rw [List.foldl_cons, ih, findings_mergeEntry, List.append_assoc]
    by_cases hk : entry.key = key <;> simp [hk]

/-- Entries taken in one after another unite the references of those that have findings. -/
theorem mem_references_foldl_mergeEntry {entries : List Entry} {graph : Graph}
    {key x : ObjectKey} :
    x ∈ (entries.foldl mergeEntry graph).references key ↔
      x ∈ graph.references key ∨
        ∃ entry ∈ entries, entry.key = key ∧ entry.findings ≠ [] ∧ x ∈ entry.references := by
  induction entries generalizing graph with
  | nil => simp
  | cons entry rest ih =>
    rw [List.foldl_cons, ih, mem_references_mergeEntry, or_assoc]
    simp only [List.mem_cons, exists_eq_or_imp]

/-- An object is valid afterwards when it was before and all its entries with findings are. -/
theorem isValid_foldl_mergeEntry {entries : List Entry} {graph : Graph} {key : ObjectKey} :
    (entries.foldl mergeEntry graph).isValid key = true ↔
      graph.isValid key = true ∧
        ∀ entry ∈ entries, entry.key = key → entry.findings ≠ [] → entry.valid = true := by
  induction entries generalizing graph with
  | nil => simp
  | cons entry rest ih =>
    rw [List.foldl_cons, ih, isValid_mergeEntry, and_assoc]
    simp only [List.forall_mem_cons]

/-- The objects with an entry afterwards are those with one before and those of the entries that
have findings. -/
theorem contains_foldl_mergeEntry {entries : List Entry} {graph : Graph} {key : ObjectKey} :
    (entries.foldl mergeEntry graph).contains key = true ↔
      graph.contains key = true ∨ ∃ entry ∈ entries, entry.key = key ∧ entry.findings ≠ [] := by
  induction entries generalizing graph with
  | nil => simp
  | cons entry rest ih =>
    rw [List.foldl_cons, ih, contains_mergeEntry, or_assoc]
    simp only [List.mem_cons, exists_eq_or_imp]

/-- The number of findings grows by those of all entries. -/
theorem findingCount_foldl_mergeEntry (entries : List Entry) (graph : Graph) :
    (entries.foldl mergeEntry graph).findingCount =
      graph.findingCount + (entries.map fun entry => entry.findings.length).sum := by
  induction entries generalizing graph with
  | nil => simp
  | cons entry rest ih =>
    rw [List.foldl_cons, ih, findingCount_mergeEntry]
    simp only [List.map_cons, List.sum_cons]
    omega

/-- The findings of an object in the graph of a list are those of its entries in their order. -/
theorem findings_ofEntries (entries : List Entry) (key : ObjectKey) :
    (ofEntries entries).findings key =
      (entries.filter fun entry => entry.key = key).flatMap Entry.findings := by
  rw [ofEntries, findings_foldl_mergeEntry, findings_empty, List.nil_append]

/-- The references of an object in the graph of a list are those of its entries with findings. -/
theorem mem_references_ofEntries {entries : List Entry} {key x : ObjectKey} :
    x ∈ (ofEntries entries).references key ↔
      ∃ entry ∈ entries, entry.key = key ∧ entry.findings ≠ [] ∧ x ∈ entry.references := by
  simp [ofEntries, mem_references_foldl_mergeEntry]

/-- An object is valid in the graph of a list when all its entries with findings are. -/
theorem isValid_ofEntries {entries : List Entry} {key : ObjectKey} :
    (ofEntries entries).isValid key = true ↔
      ∀ entry ∈ entries, entry.key = key → entry.findings ≠ [] → entry.valid = true := by
  simp [ofEntries, isValid_foldl_mergeEntry]

/-- The graph of a list has the objects of the entries with findings. -/
theorem contains_ofEntries {entries : List Entry} {key : ObjectKey} :
    (ofEntries entries).contains key = true ↔
      ∃ entry ∈ entries, entry.key = key ∧ entry.findings ≠ [] := by
  rw [ofEntries, contains_foldl_mergeEntry, contains_empty]
  simp

/-- The graph of a list has all findings of its entries. -/
theorem findingCount_ofEntries (entries : List Entry) :
    (ofEntries entries).findingCount = (entries.map fun entry => entry.findings.length).sum := by
  rw [ofEntries, findingCount_foldl_mergeEntry, findingCount_empty, Nat.zero_add]

/-! ### The entry of an object -/

/-- The entries listed under a key are the entry of the object, if there is one. -/
theorem filter_entries (graph : Graph) (key : ObjectKey) :
    graph.entries.filter (fun entry => entry.key = key) = (graph.get? key).toList :=
  filter_key_of_sorted graph.sorted key

/-- The entry of an object is the one listed under its key. -/
theorem get?_eq_some_iff {graph : Graph} {key : ObjectKey} {entry : Entry} :
    graph.get? key = some entry ↔ entry ∈ graph.entries ∧ entry.key = key := by
  have hf : entry ∈ graph.entries.filter (fun x => x.key = key) ↔ graph.get? key = some entry := by
    rw [filter_entries, Option.mem_toList]
  rw [← hf]
  simp

/-- The findings of an entry are those of its object. -/
theorem findings_of_mem {graph : Graph} {entry : Entry} (h : entry ∈ graph.entries) :
    graph.findings entry.key = entry.findings := by
  rw [findings, get?_eq_some_iff.2 ⟨h, rfl⟩]
  rfl

/-- The references of an object are those of its entry. -/
theorem mem_references_iff {graph : Graph} {key x : ObjectKey} :
    x ∈ graph.references key ↔
      ∃ entry ∈ graph.entries, entry.key = key ∧ x ∈ entry.references := by
  unfold references
  constructor
  · intro h
    cases hg : graph.get? key with
    | none => simp [hg] at h
    | some entry =>
      obtain ⟨hm, hk⟩ := get?_eq_some_iff.1 hg
      exact ⟨entry, hm, hk, by simpa only [hg, Option.map_some, Option.getD_some] using h⟩
  · intro h
    obtain ⟨entry, hm, hk, hx⟩ := h
    rw [get?_eq_some_iff.2 ⟨hm, hk⟩]
    exact hx

/-- No entry of a graph is without findings. -/
def HasFindings (graph : Graph) : Prop := ∀ entry ∈ graph.entries, entry.findings ≠ []

/-- An object has an entry exactly when it has findings, if no entry is without. -/
theorem HasFindings.contains_iff {graph : Graph} (full : graph.HasFindings) {key : ObjectKey} :
    graph.contains key = true ↔ graph.findings key ≠ [] := by
  unfold contains findings
  cases hg : graph.get? key with
  | none => simp
  | some entry =>
    have hf := full entry (get?_eq_some_iff.1 hg).1
    simpa using hf

/-- Without findings there are no references, if no entry is without findings. -/
theorem HasFindings.findings_ne_nil_of_mem {graph : Graph} (full : graph.HasFindings)
    {key x : ObjectKey} (h : x ∈ graph.references key) : graph.findings key ≠ [] := by
  obtain ⟨entry, hm, rfl, -⟩ := mem_references_iff.1 h
  rw [findings_of_mem hm]
  exact full entry hm

/-- An object without findings is valid, if no entry is without findings. -/
theorem HasFindings.isValid_of_findings_eq_nil {graph : Graph} (full : graph.HasFindings)
    {key : ObjectKey} (h : graph.findings key = []) : graph.isValid key = true := by
  unfold isValid
  cases hg : graph.get? key with
  | none => rfl
  | some entry =>
    have hne := full entry (get?_eq_some_iff.1 hg).1
    exact absurd (by simpa [findings, hg] using h) hne

/-- Taking in an entry never leaves an entry without findings. -/
theorem HasFindings.mergeEntry {graph : Graph} (full : graph.HasFindings) (entry : Entry) :
    (graph.mergeEntry entry).HasFindings := by
  intro x hx
  have hget := get?_eq_some_iff.2 ⟨hx, rfl⟩
  rw [get?_mergeEntry] at hget
  split at hget
  · next hf =>
    cases hg : graph.get? x.key with
    | none =>
      rw [hg] at hget
      cases hget
      exact hf.1
    | some held =>
      rw [hg] at hget
      cases hget
      simp [Entry.absorb, Entry.merge, hf.1]
  · exact full x (get?_eq_some_iff.1 hget).1

/-- Taking in several entries never leaves an entry without findings. -/
theorem HasFindings.foldl_mergeEntry {graph : Graph} (full : graph.HasFindings)
    (entries : List Entry) : (entries.foldl Graph.mergeEntry graph).HasFindings := by
  induction entries generalizing graph with
  | nil => exact full
  | cons entry rest ih => exact ih (full.mergeEntry entry)

theorem hasFindings_empty : (∅ : Graph).HasFindings := by
  intro entry h
  exact absurd h List.not_mem_nil

/-- The graph of a list has no entry without findings. -/
theorem hasFindings_ofEntries (entries : List Entry) : (ofEntries entries).HasFindings :=
  hasFindings_empty.foldl_mergeEntry entries

/-! ### Merging and filtering -/

/-- Merging appends the findings of each object. -/
theorem findings_merge (graph other : Graph) (key : ObjectKey) :
    (graph.merge other).findings key = graph.findings key ++ other.findings key := by
  rw [merge, findings_foldl_mergeEntry, filter_entries]
  cases hg : other.get? key <;> simp [findings, hg]

/-- Merging with a graph without empty entries unites the references of each object. -/
theorem mem_references_merge {graph other : Graph} (full : other.HasFindings)
    {key x : ObjectKey} :
    x ∈ (graph.merge other).references key ↔
      x ∈ graph.references key ∨ x ∈ other.references key := by
  rw [merge, mem_references_foldl_mergeEntry]
  refine or_congr_right ?_
  rw [mem_references_iff]
  constructor
  · intro h
    obtain ⟨entry, hm, hk, -, hx⟩ := h
    exact ⟨entry, hm, hk, hx⟩
  · intro h
    obtain ⟨entry, hm, hk, hx⟩ := h
    exact ⟨entry, hm, hk, full entry hm, hx⟩

/-- An object is valid in a merge with a graph without empty entries when it is in both graphs. -/
theorem isValid_merge {graph other : Graph} (full : other.HasFindings) {key : ObjectKey} :
    (graph.merge other).isValid key = true ↔
      graph.isValid key = true ∧ other.isValid key = true := by
  rw [merge, isValid_foldl_mergeEntry]
  refine and_congr_right fun _ => ?_
  constructor
  · intro h
    unfold isValid
    cases hg : other.get? key with
    | none => rfl
    | some entry =>
      obtain ⟨hm, hk⟩ := get?_eq_some_iff.1 hg
      exact h entry hm hk (full entry hm)
  · intro h entry hm hk _
    have hget := get?_eq_some_iff.2 ⟨hm, hk⟩
    simpa [isValid, hget] using h

/-- Merging never leaves an entry without findings. -/
theorem HasFindings.merge {graph : Graph} (full : graph.HasFindings) (other : Graph) :
    (graph.merge other).HasFindings :=
  full.foldl_mergeEntry other.entries

/-- Merging several graphs appends the findings of each object in the order of the graphs. -/
theorem findings_foldl_merge (graphs : List Graph) (graph : Graph) (key : ObjectKey) :
    (graphs.foldl merge graph).findings key =
      graph.findings key ++ graphs.flatMap fun other => other.findings key := by
  induction graphs generalizing graph with
  | nil => simp
  | cons other rest ih =>
    rw [List.foldl_cons, ih, findings_merge, List.flatMap_cons, List.append_assoc]

/-- Merging several graphs without empty entries unites the references of each object. -/
theorem mem_references_foldl_merge {graphs : List Graph} {graph : Graph}
    (full : ∀ other ∈ graphs, other.HasFindings) {key x : ObjectKey} :
    x ∈ (graphs.foldl merge graph).references key ↔
      x ∈ graph.references key ∨ ∃ other ∈ graphs, x ∈ other.references key := by
  induction graphs generalizing graph with
  | nil => simp
  | cons other rest ih =>
    obtain ⟨hother, hrest⟩ := List.forall_mem_cons.1 full
    rw [List.foldl_cons, ih hrest, mem_references_merge hother, or_assoc]
    simp only [List.mem_cons, exists_eq_or_imp]

/-- An object is valid in a merge of graphs without empty entries when it is in all of them. -/
theorem isValid_foldl_merge {graphs : List Graph} {graph : Graph}
    (full : ∀ other ∈ graphs, other.HasFindings) {key : ObjectKey} :
    (graphs.foldl merge graph).isValid key = true ↔
      graph.isValid key = true ∧ ∀ other ∈ graphs, other.isValid key = true := by
  induction graphs generalizing graph with
  | nil => simp
  | cons other rest ih =>
    obtain ⟨hother, hrest⟩ := List.forall_mem_cons.1 full
    rw [List.foldl_cons, ih hrest, isValid_merge hother, and_assoc]
    simp only [List.forall_mem_cons]

/-- Merging several graphs never leaves an entry without findings. -/
theorem HasFindings.foldl_merge {graph : Graph} (full : graph.HasFindings) (graphs : List Graph) :
    (graphs.foldl Graph.merge graph).HasFindings := by
  induction graphs generalizing graph with
  | nil => exact full
  | cons other rest ih => exact ih (full.merge other)

/-- The filter keeps the findings of each object that pass. -/
theorem findings_filterSeverity (graph : Graph) (minimum : Severity) (key : ObjectKey) :
    (graph.filterSeverity minimum).findings key =
      (graph.findings key).filter fun finding => finding.severity.atLeast minimum := by
  have hkey : ((fun entry : Entry => decide (entry.key = key)) ∘ keepFindings minimum) =
      fun entry => decide (entry.key = key) := rfl
  rw [filterSeverity, findings_ofEntries, List.filter_map, hkey, filter_entries]
  cases hg : graph.get? key <;> simp [findings, hg, keepFindings]

/-- The filter keeps the references of each object that has findings left. -/
theorem mem_references_filterSeverity {graph : Graph} {minimum : Severity} {key x : ObjectKey} :
    x ∈ (graph.filterSeverity minimum).references key ↔
      (graph.filterSeverity minimum).findings key ≠ [] ∧ x ∈ graph.references key := by
  rw [findings_filterSeverity, filterSeverity, mem_references_ofEntries, mem_references_iff]
  constructor
  · intro h
    obtain ⟨entry, hm, hk, hf, hx⟩ := h
    obtain ⟨held, hheld, rfl⟩ := List.mem_map.1 hm
    have hk : held.key = key := hk
    rw [← hk, findings_of_mem hheld]
    exact ⟨hf, held, hheld, rfl, hx⟩
  · intro h
    obtain ⟨hf, held, hheld, rfl, hx⟩ := h
    rw [findings_of_mem hheld] at hf
    exact ⟨keepFindings minimum held, List.mem_map_of_mem hheld, rfl, hf, hx⟩

/-- The filter leaves no entry without findings. -/
theorem hasFindings_filterSeverity (graph : Graph) (minimum : Severity) :
    (graph.filterSeverity minimum).HasFindings :=
  hasFindings_ofEntries _

end Graph

end MeshAudit

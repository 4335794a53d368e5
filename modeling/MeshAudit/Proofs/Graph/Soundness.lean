import MeshAudit.Proofs.Graph.Contents

/-!
# Sound graphs

An entry is sound when its object counts as invalid exactly if one of its findings is an error, and
when it refers to other objects only. A graph is sound when all its entries are, none is without
findings, and each is found under its own key. Every entry that is put together step by step is
sound, and every operation on graphs keeps them sound.

A consistent graph promises the same but for the references: its entries may refer to their own
objects. That is enough wherever only findings and flags are looked at.
-/

namespace MeshAudit

/-! ### Sound entries -/

/-- An entry says what its findings say, and refers to other objects only. -/
structure Entry.Sound (entry : Entry) : Prop where
  /-- The object is invalid when a finding is an error, and only then. -/
  invalid_iff : entry.valid = false ↔ ∃ finding ∈ entry.findings, finding.severity = .error
  /-- The object does not refer to itself. -/
  ne : ∀ key ∈ entry.references, key ≠ entry.key

namespace Entry

/-- The entry of an object about which nothing is known is sound. -/
theorem sound_ofKey (key : ObjectKey) : (ofKey key).Sound where
  invalid_iff := by simp [ofKey]
  ne := fun _ h => absurd h SortedSet.not_mem_empty

/-- A further finding keeps an entry sound, whatever its severity. -/
theorem Sound.addFinding {entry : Entry} (sound : entry.Sound) (finding : Finding) :
    (entry.addFinding finding).Sound where
  invalid_iff := by
    have hvalid : (entry.addFinding finding).valid = false ↔
        entry.valid = false ∨ finding.severity = .error := by
      simp only [Entry.addFinding, Bool.and_eq_false_iff, bne_eq_false_iff_eq]
    have hfindings : (entry.addFinding finding).findings = entry.findings ++ [finding] := rfl
    rw [hvalid, hfindings, sound.invalid_iff]
    simp only [List.mem_append, List.mem_singleton, or_and_right, exists_or, exists_eq_left]
  ne := sound.ne

/-- A further reference keeps an entry sound, as one to its own object is dropped. -/
theorem Sound.addReference {entry : Entry} (sound : entry.Sound) (key : ObjectKey) :
    (entry.addReference key).Sound where
  invalid_iff := by
    rw [valid_addReference, findings_addReference]
    exact sound.invalid_iff
  ne := by
    intro x h
    rw [key_addReference]
    rcases mem_addReference.1 h with ⟨rfl, hne⟩ | hx
    · exact hne
    · exact sound.ne x hx

/-- Further references keep an entry sound. -/
theorem Sound.addReferences {entry : Entry} (sound : entry.Sound) (keys : List ObjectKey) :
    (entry.addReferences keys).Sound := by
  induction keys generalizing entry with
  | nil => exact sound
  | cons key rest ih => exact ih (sound.addReference key)

/-- Two sound entries of one object merge into a sound one. -/
theorem Sound.merge {entry other : Entry} (sound : entry.Sound) (soundOther : other.Sound)
    (same : other.key = entry.key) : (entry.merge other).Sound where
  invalid_iff := by
    have hvalid : (entry.merge other).valid = false ↔
        entry.valid = false ∨ other.valid = false := by
      simp only [Entry.merge, Bool.and_eq_false_iff]
    have hfindings : (entry.merge other).findings = entry.findings ++ other.findings := rfl
    rw [hvalid, hfindings, sound.invalid_iff, soundOther.invalid_iff]
    simp only [List.mem_append, or_and_right, exists_or]
  ne := by
    intro x h
    rw [key_merge]
    rcases SortedSet.mem_union.1 h with hx | hx
    · exact sound.ne x hx
    · exact same ▸ soundOther.ne x hx

/-- An entry stays sound when the findings below a severity are left out: errors never are. -/
theorem Sound.keepFindings {entry : Entry} (sound : entry.Sound) (minimum : Severity) :
    (Graph.keepFindings minimum entry).Sound where
  invalid_iff := by
    have hfindings : (Graph.keepFindings minimum entry).findings =
        entry.findings.filter fun finding => finding.severity.atLeast minimum := rfl
    have hvalid : (Graph.keepFindings minimum entry).valid = entry.valid := rfl
    rw [hvalid, hfindings, sound.invalid_iff]
    constructor
    · rintro ⟨finding, hmem, herror⟩
      have hkept : finding.severity.atLeast minimum = true := by rw [herror, Severity.error_atLeast]
      exact ⟨finding, List.mem_filter.2 ⟨hmem, hkept⟩, herror⟩
    · rintro ⟨finding, hmem, herror⟩
      exact ⟨finding, (List.mem_filter.1 hmem).1, herror⟩
  ne := sound.ne

end Entry

/-- How an entry is put together, step by step. -/
inductive EntryDraft where
  /-- Nothing is known yet. -/
  | new
  /-- A finding of any severity is added. -/
  | finding (draft : EntryDraft) (finding : Finding)
  /-- A reference is added. -/
  | reference (draft : EntryDraft) (key : ObjectKey)
  /-- Several references are added. -/
  | references (draft : EntryDraft) (keys : List ObjectKey)
  /-- Another entry of the same object is taken in. -/
  | merge (draft other : EntryDraft)

namespace EntryDraft

/-- The entry of an object that a draft describes. -/
def entry (key : ObjectKey) : EntryDraft → Entry
  | new => .ofKey key
  | finding draft added => (draft.entry key).addFinding added
  | reference draft other => (draft.entry key).addReference other
  | references draft others => (draft.entry key).addReferences others
  | merge draft other => (draft.entry key).merge (other.entry key)

/-- No step changes whose entry it is. -/
theorem key_entry (key : ObjectKey) (draft : EntryDraft) : (draft.entry key).key = key := by
  induction draft with
  | new => rfl
  | finding draft added ih => exact ih
  | reference draft other ih => exact (Entry.key_addReference _ _).trans ih
  | references draft others ih => exact (Entry.key_addReferences _ _).trans ih
  | merge draft other ih _ => exact ih

/-- Every step keeps the entry sound. -/
theorem sound_entry (key : ObjectKey) (draft : EntryDraft) : (draft.entry key).Sound := by
  induction draft with
  | new => exact Entry.sound_ofKey key
  | finding draft added ih => exact ih.addFinding added
  | reference draft other ih => exact ih.addReference other
  | references draft others ih => exact ih.addReferences others
  | merge draft other ih ihOther =>
    have hsame : (other.entry key).key = (draft.entry key).key := by rw [key_entry, key_entry]
    exact ih.merge ihOther hsame

end EntryDraft

/-! ### Sound graphs -/

namespace Graph

/-- Every entry of a graph is found under its own key and no other, has findings, and is sound. -/
structure Sound (graph : Graph) : Prop where
  /-- An entry is the one of its key, and of no other. -/
  get?_iff : ∀ entry ∈ graph.entries, ∀ key, graph.get? key = some entry ↔ key = entry.key
  /-- No entry is without findings. -/
  full : graph.HasFindings
  /-- Every entry is sound. -/
  entries : ∀ entry ∈ graph.entries, entry.Sound

/-- Entries are always found under their keys, so a graph of sound entries with findings is
sound. -/
theorem Sound.of_entries {graph : Graph} (full : graph.HasFindings)
    (entries : ∀ entry ∈ graph.entries, entry.Sound) : graph.Sound where
  get?_iff := by
    intro entry hentry key
    rw [get?_eq_some_iff]
    constructor
    · intro h
      exact h.2.symm
    · intro h
      exact ⟨hentry, h.symm⟩
  full := full
  entries := entries

theorem sound_empty : (∅ : Graph).Sound :=
  .of_entries hasFindings_empty fun _ h => absurd h List.not_mem_nil

/-- Taking in a sound entry keeps a graph sound. -/
theorem Sound.mergeEntry {graph : Graph} (sound : graph.Sound) {entry : Entry}
    (soundEntry : entry.Sound) : (graph.mergeEntry entry).Sound := by
  refine .of_entries (sound.full.mergeEntry entry) fun x hx => ?_
  have hget : (graph.mergeEntry entry).get? x.key = some x := get?_eq_some_iff.2 ⟨hx, rfl⟩
  rw [get?_mergeEntry] at hget
  split at hget
  · next hnew =>
    cases hg : graph.get? x.key with
    | none =>
      -- the entry is the first one of its object
      rw [hg] at hget
      cases hget
      exact soundEntry
    | some held =>
      obtain ⟨hheld, hkey⟩ := get?_eq_some_iff.1 hg
      have hmerge : held.merge entry = x := by
        rw [hg] at hget
        exact Option.some.inj hget
      have hsame : entry.key = held.key := hnew.2.trans hkey.symm
      exact hmerge ▸ (sound.entries held hheld).merge soundEntry hsame
  · exact sound.entries x (get?_eq_some_iff.1 hget).1

/-- Taking in sound entries one after another keeps a graph sound. -/
theorem Sound.foldl_mergeEntry {graph : Graph} (sound : graph.Sound) {added : List Entry}
    (soundAdded : ∀ entry ∈ added, entry.Sound) : (added.foldl Graph.mergeEntry graph).Sound := by
  induction added generalizing graph with
  | nil => exact sound
  | cons entry rest ih =>
    obtain ⟨hentry, hrest⟩ := List.forall_mem_cons.1 soundAdded
    exact ih (sound.mergeEntry hentry) hrest

/-- The graph of a list of sound entries is sound. -/
theorem sound_ofEntries {added : List Entry} (soundAdded : ∀ entry ∈ added, entry.Sound) :
    (ofEntries added).Sound :=
  sound_empty.foldl_mergeEntry soundAdded

/-- Two sound graphs merge into a sound one. -/
theorem Sound.merge {graph other : Graph} (sound : graph.Sound) (soundOther : other.Sound) :
    (graph.merge other).Sound :=
  sound.foldl_mergeEntry soundOther.entries

/-- Several sound graphs merge into a sound one. -/
theorem Sound.foldl_merge {graph : Graph} (sound : graph.Sound) {graphs : List Graph}
    (soundGraphs : ∀ other ∈ graphs, other.Sound) : (graphs.foldl Graph.merge graph).Sound := by
  induction graphs generalizing graph with
  | nil => exact sound
  | cons other rest ih =>
    obtain ⟨hother, hrest⟩ := List.forall_mem_cons.1 soundGraphs
    exact ih (sound.merge hother) hrest

/-- A sound graph stays sound when it is filtered. -/
theorem Sound.filterSeverity {graph : Graph} (sound : graph.Sound) (minimum : Severity) :
    (graph.filterSeverity minimum).Sound := by
  refine sound_ofEntries fun entry hentry => ?_
  obtain ⟨held, hheld, rfl⟩ := List.mem_map.1 hentry
  exact (sound.entries held hheld).keepFindings minimum

/-! ### Consistent graphs -/

/-- The entries of a graph are found under their own keys, none is without findings, and each is
valid exactly when none of its findings is an error. -/
structure Consistent (graph : Graph) : Prop where
  /-- An entry is found under its own key. -/
  get?_key : ∀ entry ∈ graph.entries, graph.get? entry.key = some entry
  /-- No entry is without findings. -/
  full : graph.HasFindings
  /-- The flag of an entry says whether one of its findings is an error. -/
  valid_iff : ∀ entry ∈ graph.entries,
    entry.valid = true ↔ ∀ finding ∈ entry.findings, finding.severity ≠ .error

/-- A graph without empty entries is consistent when the findings of each object tell whether it is
valid. -/
theorem Consistent.of_isValid {graph : Graph} (full : graph.HasFindings)
    (isValid_iff : ∀ key, graph.isValid key = true ↔
      ∀ finding ∈ graph.findings key, finding.severity ≠ .error) : graph.Consistent where
  get?_key := fun _ hentry => get?_eq_some_iff.2 ⟨hentry, rfl⟩
  full := full
  valid_iff := by
    intro entry hentry
    have hvalid : graph.isValid entry.key = entry.valid := by
      rw [isValid, get?_eq_some_iff.2 ⟨hentry, rfl⟩]
      rfl
    rw [← hvalid, ← findings_of_mem hentry, isValid_iff]

/-- An object of a consistent graph is valid when none of its findings is an error. -/
theorem Consistent.isValid_iff {graph : Graph} (consistent : graph.Consistent) (key : ObjectKey) :
    graph.isValid key = true ↔ ∀ finding ∈ graph.findings key, finding.severity ≠ .error := by
  cases hg : graph.get? key with
  | none => simp [isValid, findings, hg]
  | some entry =>
    have hentry := (get?_eq_some_iff.1 hg).1
    simpa [isValid, findings, hg] using consistent.valid_iff entry hentry

/-- Sound graphs, and so all graphs of an analysis, are consistent. -/
theorem Sound.consistent {graph : Graph} (sound : graph.Sound) : graph.Consistent where
  get?_key := fun entry hentry => (sound.get?_iff entry hentry entry.key).2 rfl
  full := sound.full
  valid_iff := by
    intro entry hentry
    have hinvalid := (sound.entries entry hentry).invalid_iff
    rw [← Bool.not_eq_false, hinvalid]
    simp only [not_exists, not_and, ne_eq]

/-- Merging keeps graphs consistent. -/
theorem Consistent.merge {graph other : Graph} (consistent : graph.Consistent)
    (consistentOther : other.Consistent) : (graph.merge other).Consistent := by
  refine .of_isValid (consistent.full.merge other) fun key => ?_
  rw [isValid_merge consistentOther.full, consistent.isValid_iff, consistentOther.isValid_iff,
    findings_merge]
  simp only [List.mem_append, or_imp, forall_and]

end Graph

end MeshAudit

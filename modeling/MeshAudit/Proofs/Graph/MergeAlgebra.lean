import MeshAudit.Proofs.Graph.Agreement

/-!
# The algebra of merging

Among graphs without empty entries, merging is associative and has the empty graph as its identity.
It is commutative but for the order of the findings of an object, and altogether so between graphs
that speak of different objects. So graphs of which no two speak of one object can be merged in any
order.
-/

namespace MeshAudit

namespace Graph

/-- The order of merging three graphs in a row does not matter. -/
theorem merge_assoc {graph other third : Graph} (full : graph.HasFindings)
    (fullOther : other.HasFindings) (fullThird : third.HasFindings) :
    (graph.merge other).merge third = graph.merge (other.merge third) := by
  refine ((full.merge other).merge third).ext (full.merge _) ?_ ?_ ?_
  · intro key
    rw [Bool.eq_iff_iff, isValid_merge fullThird, isValid_merge fullOther,
      isValid_merge (fullOther.merge third), isValid_merge fullThird, and_assoc]
  · intro key
    refine SortedSet.ext_mem fun x => ?_
    rw [mem_references_merge fullThird, mem_references_merge fullOther,
      mem_references_merge (fullOther.merge third), mem_references_merge fullThird, or_assoc]
  · intro key
    rw [findings_merge, findings_merge, findings_merge, findings_merge, List.append_assoc]

/-- Merging the empty graph in changes nothing. -/
theorem merge_empty (graph : Graph) : graph.merge ∅ = graph := rfl

/-- Merging a graph without empty entries into the empty one copies it. -/
theorem empty_merge {graph : Graph} (full : graph.HasFindings) : (∅ : Graph).merge graph = graph := by
  refine (hasFindings_empty.merge graph).ext full ?_ ?_ ?_
  · intro key
    rw [Bool.eq_iff_iff, isValid_merge full, isValid_empty]
    simp
  · intro key
    refine SortedSet.ext_mem fun x => ?_
    rw [mem_references_merge full]
    simp
  · intro key
    rw [findings_merge, findings_empty, List.nil_append]

/-- Two graphs say the same whichever is merged into the other. -/
theorem agrees_merge_comm {graph other : Graph} (full : graph.HasFindings)
    (fullOther : other.HasFindings) : (graph.merge other).Agrees (other.merge graph) := by
  refine .of_full (full.merge other) (fullOther.merge graph) ?_ ?_ ?_
  · intro key
    rw [isValid_merge fullOther, isValid_merge full, and_comm]
  · intro key x
    rw [mem_references_merge fullOther, mem_references_merge full, or_comm]
  · intro key
    rw [findings_merge, findings_merge]
    exact List.perm_append_comm

/-- A merge has the findings of both graphs. -/
theorem findingCount_merge (graph other : Graph) :
    (graph.merge other).findingCount = graph.findingCount + other.findingCount := by
  rw [merge, findingCount_foldl_mergeEntry, findingCount_eq_sum other]

/-! ### Graphs of one entry -/

/-- Merging the graph of one entry in is taking in the entry. -/
theorem merge_ofEntries_singleton (graph : Graph) (entry : Entry) :
    graph.merge (ofEntries [entry]) = graph.mergeEntry entry := by
  by_cases hf : entry.findings = []
  · have hempty : ofEntries [entry] = ∅ := by
      change (∅ : Graph).mergeEntry entry = ∅
      exact mergeEntry_of_findings_eq_nil hf
    rw [hempty, merge_empty, mergeEntry_of_findings_eq_nil hf]
  · have hone : (ofEntries [entry]).entries = [entry] := by
      change ((∅ : Graph).mergeEntry entry).entries = [entry]
      rw [mergeEntry, if_neg hf]
      rfl
    rw [merge, hone]
    rfl

/-- The graph of a list of entries merges their graphs one by one. -/
theorem ofEntries_eq_foldl_merge (entries : List Entry) :
    ofEntries entries = (entries.map fun entry => ofEntries [entry]).foldl merge ∅ := by
  rw [List.foldl_map]
  simp only [merge_ofEntries_singleton]
  rfl

/-! ### Graphs that speak of different objects -/

/-- No object has findings in both graphs. -/
def Apart (graph other : Graph) : Prop :=
  ∀ key, graph.findings key = [] ∨ other.findings key = []

theorem Apart.symm {graph other : Graph} (h : graph.Apart other) : other.Apart graph :=
  fun key => (h key).symm

/-- Graphs that list no object in common are apart. -/
theorem apart_of_keys {graph other : Graph} (full : graph.HasFindings)
    (fullOther : other.HasFindings) (h : ∀ key ∈ graph.keys, key ∉ other.keys) :
    graph.Apart other := by
  intro key
  by_cases hkey : graph.findings key = []
  · exact .inl hkey
  · by_cases hother : other.findings key = []
    · exact .inr hother
    · have hleft : key ∈ graph.keys := mem_keys.2 (full.contains_iff.2 hkey)
      have hright : key ∈ other.keys := mem_keys.2 (fullOther.contains_iff.2 hother)
      exact absurd hright (h key hleft)

/-- Of graphs that are apart, only one has findings of an object, so their order does not matter
to these. -/
theorem flatMap_findings_eq_of_perm {graphs others : List Graph} (h : graphs.Perm others)
    (apart : graphs.Pairwise Apart) (key : ObjectKey) :
    (graphs.flatMap fun graph => graph.findings key) =
      others.flatMap fun graph => graph.findings key := by
  induction h with
  | nil => rfl
  | cons graph _ ih =>
    have htail := (List.pairwise_cons.1 apart).2
    rw [List.flatMap_cons, List.flatMap_cons, ih htail]
  | swap graph other rest =>
    have hapart : other.Apart graph := (List.pairwise_cons.1 apart).1 graph List.mem_cons_self
    simp only [List.flatMap_cons]
    rcases hapart key with hnil | hnil
    · simp [hnil]
    · simp [hnil]
  | trans hfirst _ ih ih' =>
    have hmiddle := (hfirst.pairwise_iff Apart.symm).1 apart
    rw [ih apart, ih' hmiddle]

/-- Graphs without empty entries that are apart merge into one graph in every order. -/
theorem foldl_merge_eq_of_perm {graphs others : List Graph} (h : graphs.Perm others)
    (full : ∀ graph ∈ graphs, graph.HasFindings) (apart : graphs.Pairwise Apart) :
    graphs.foldl merge ∅ = others.foldl merge ∅ := by
  have fullOthers : ∀ graph ∈ others, graph.HasFindings :=
    fun graph hmem => full graph (h.mem_iff.2 hmem)
  refine (hasFindings_empty.foldl_merge graphs).ext (hasFindings_empty.foldl_merge others) ?_ ?_ ?_
  · intro key
    rw [Bool.eq_iff_iff, isValid_foldl_merge full, isValid_foldl_merge fullOthers]
    simp only [h.mem_iff]
  · intro key
    refine SortedSet.ext_mem fun x => ?_
    rw [mem_references_foldl_merge full, mem_references_foldl_merge fullOthers]
    simp only [h.mem_iff]
  · intro key
    rw [findings_foldl_merge, findings_foldl_merge, flatMap_findings_eq_of_perm h apart]

/-- Two graphs without empty entries that are apart merge into one graph either way. -/
theorem merge_comm_of_apart {graph other : Graph} (full : graph.HasFindings)
    (fullOther : other.HasFindings) (apart : graph.Apart other) :
    graph.merge other = other.merge graph := by
  have hfull : ∀ x ∈ [graph, other], x.HasFindings :=
    List.forall_mem_cons.2 ⟨full, List.forall_mem_singleton.2 fullOther⟩
  have hmerge := foldl_merge_eq_of_perm (List.Perm.swap other graph []) hfull
    (List.pairwise_pair.2 apart)
  simpa only [List.foldl_cons, List.foldl_nil, empty_merge full, empty_merge fullOther] using hmerge

end Graph

end MeshAudit

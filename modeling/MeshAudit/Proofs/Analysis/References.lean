import MeshAudit.Proofs.Analysis.Contents

/-!
# References of an analysis

Conflicts are reported from all their ends, so references go both ways. The severity filter drops
entries but copies the references of those it keeps. It leaves none dangling all the same, because
the objects of one kind, and so the two ends of every reference, have findings of one severity.
-/

namespace MeshAudit

/-- The references of a graph are sound: each leads to another object of the same kind that has an
entry of its own and refers back, and all objects are ones of a snapshot. -/
structure Graph.Linked (graph : Graph) (snapshot : Snapshot) : Prop where
  /-- No object refers to itself. -/
  ne : ∀ entry ∈ graph.entries, ∀ key ∈ entry.references, key ≠ entry.key
  /-- Who is referred to has an entry that refers back. -/
  back : ∀ entry ∈ graph.entries, ∀ key ∈ entry.references,
    ∃ other ∈ graph.entries, other.key = key ∧ entry.key ∈ other.references
  /-- References stay inside a kind. -/
  kind : ∀ entry ∈ graph.entries, ∀ key ∈ entry.references, key.kind = entry.key.kind
  /-- Every entry is that of an object of the snapshot. -/
  known : ∀ entry ∈ graph.entries,
    ∃ object ∈ snapshot.objects, ObjectKey.ofObject object = entry.key
  /-- Every reference leads to an object of the snapshot. -/
  referenceKnown : ∀ entry ∈ graph.entries, ∀ key ∈ entry.references,
    ∃ object ∈ snapshot.objects, ObjectKey.ofObject object = key

/-- The references of a graph are sound when they go both ways between different objects of one
kind and the graph speaks of the objects of the snapshot only. -/
theorem Graph.Linked.of_both {graph : Graph} {snapshot : Snapshot} (full : graph.HasFindings)
    (both : ∀ key x, x ∈ graph.references key →
      x ≠ key ∧ x.kind = key.kind ∧ key ∈ graph.references x)
    (about : graph.OnlyAbout snapshot.objects) : graph.Linked snapshot := by
  have hends : ∀ entry ∈ graph.entries, ∀ key ∈ entry.references,
      key ≠ entry.key ∧ key.kind = entry.key.kind ∧ entry.key ∈ graph.references key :=
    fun entry hentry key hkey =>
      both entry.key key (Graph.mem_references_iff.2 ⟨entry, hentry, rfl, hkey⟩)
  constructor
  · intro entry hentry key hkey
    exact (hends entry hentry key hkey).1
  · intro entry hentry key hkey
    exact Graph.mem_references_iff.1 (hends entry hentry key hkey).2.2
  · intro entry hentry key hkey
    exact (hends entry hentry key hkey).2.1
  · intro entry hentry
    refine about entry.key ?_
    rw [Graph.findings_of_mem hentry]
    exact full entry hentry
  · intro entry hentry key hkey
    exact about key (full.findings_ne_nil_of_mem (hends entry hentry key hkey).2.2)

/-- The severity of the findings about objects of a kind. -/
def Kind.findingSeverity : Kind → Severity
  | virtualService => .warning
  | _ => .error

namespace MeshSettings

variable {settings : MeshSettings} {snapshot : Snapshot}

/-- All findings about objects of one kind have one severity. -/
theorem severity_of_mem_findingsOfKind {kind : Kind} {key : ObjectKey} {finding : Finding}
    (h : finding ∈ (settings.findingsOfKind snapshot kind).findings key) :
    finding.severity = kind.findingSeverity := by
  cases kind with
  | gateway =>
    have hperm := findings_gatewayGraph_perm (byNamespace snapshot.gateways).flatten key
    obtain ⟨p, -, rfl⟩ := List.mem_map.1 (hperm.mem_iff.1 h)
    rfl
  | virtualService =>
    change finding ∈ (settings.virtualServiceFindings snapshot).findings key at h
    rw [findings_virtualServiceFindings] at h
    obtain ⟨services, -, h⟩ := List.mem_flatMap.1 h
    rw [findings_sharedHostGraph] at h
    rw [List.eq_of_mem_replicate h]
    rfl
  | destinationRule =>
    change finding ∈ (settings.destinationRuleFindings snapshot).findings key at h
    rw [findings_destinationRuleFindings] at h
    obtain ⟨rule, -, h⟩ := List.mem_flatMap.1 h
    obtain ⟨check, hcheck, rfl⟩ := List.mem_map.1 h
    exact (ruleFailure?_eq_some_iff.1 (Option.mem_toList.1 hcheck)).severity_eq
  | peerAuthentication =>
    change finding ∈ (settings.peerAuthenticationFindings snapshot).findings key at h
    rw [findings_peerAuthenticationFindings] at h
    obtain ⟨policy, -, h⟩ := List.mem_flatMap.1 h
    obtain ⟨check, hcheck, rfl⟩ := List.mem_map.1 h
    exact settings.severity_of_disabledPolicyCheck? (Option.mem_toList.1 hcheck)

/-- In the graph of a kind references lead to other objects and go both ways. -/
theorem references_findingsOfKind_symm {kind : Kind} {key x : ObjectKey}
    (h : x ∈ (settings.findingsOfKind snapshot kind).references key) :
    x ≠ key ∧ key ∈ (settings.findingsOfKind snapshot kind).references x := by
  cases kind with
  | gateway =>
    obtain ⟨hne, ⟨b, c⟩, hp, hb, hc⟩ := mem_references_gatewayGraph.1 h
    have hswap := swap_mem_conflictPairs hp
    exact ⟨hne, mem_references_gatewayGraph.2 ⟨hne.symm, (c, b), hswap, hc, hb⟩⟩
  | virtualService =>
    obtain ⟨services, hservices, hx⟩ :=
      (settings.mem_references_virtualServiceFindings snapshot).1 h
    obtain ⟨hne, hconflict⟩ := mem_references_sharedHostGraph.1 hx
    have hback : key ∈ (sharedHostGraph settings snapshot.namespaces services).references x := by
      refine mem_references_sharedHostGraph.2 ⟨hne.symm, ?_⟩
      rcases hconflict with ⟨claim, hs, hkey, hother⟩ | ⟨ns, hs, hkey, hother⟩
      · exact .inl ⟨claim, hs, hother, hkey⟩
      · exact .inr ⟨ns, hs, hother, hkey⟩
    exact ⟨hne, (settings.mem_references_virtualServiceFindings snapshot).2
      ⟨services, hservices, hback⟩⟩
  | destinationRule =>
    exact absurd h (settings.not_mem_references_destinationRuleFindings snapshot key x)
  | peerAuthentication =>
    exact absurd h (settings.not_mem_references_peerAuthenticationFindings snapshot key x)

variable {objects : List MeshObject}

/-- The references of an analysis lead to other objects of the same kind and go both ways. -/
theorem references_analyze_symm {key x : ObjectKey}
    (h : x ∈ (settings.analyze (.ofObjects objects)).references key) :
    x ≠ key ∧ x.kind = key.kind ∧
      key ∈ (settings.analyze (.ofObjects objects)).references x := by
  obtain ⟨hne, hback⟩ :=
    references_findingsOfKind_symm ((settings.mem_references_analyze objects).1 h)
  have hfindings := (settings.hasFindings_findingsOfKind _ key.kind).findings_ne_nil_of_mem hback
  have hkind : x.kind = key.kind := by
    by_contra hk
    exact hfindings (settings.findings_findingsOfKind_eq_nil objects hk)
  exact ⟨hne, hkind, (settings.mem_references_analyze objects).2 (hkind ▸ hback)⟩

/-- The analysis speaks of the objects of the snapshot. -/
theorem onlyAbout_analyze :
    (settings.analyze (.ofObjects objects)).OnlyAbout (Snapshot.ofObjects objects).objects := by
  intro key h
  rw [findings_analyze] at h
  obtain ⟨object, hmem, hkey⟩ := settings.onlyAbout_findingsOfKind _ _ key h
  exact ⟨object, Snapshot.mem_objects_of_mem_ofKind hmem, hkey⟩

/-- The filter keeps an object exactly when it has findings and those of its kind pass. -/
theorem findings_filterSeverity_ne_nil_iff {minimum : Severity} {key : ObjectKey} :
    ((settings.analyze (.ofObjects objects)).filterSeverity minimum).findings key ≠ [] ↔
      (settings.analyze (.ofObjects objects)).findings key ≠ [] ∧
        key.kind.findingSeverity.atLeast minimum = true := by
  rw [Graph.findings_filterSeverity, findings_analyze]
  constructor
  · intro h
    obtain ⟨finding, hfinding⟩ := List.exists_mem_of_ne_nil _ h
    obtain ⟨hmem, hpass⟩ := List.mem_filter.1 hfinding
    rw [severity_of_mem_findingsOfKind hmem] at hpass
    exact ⟨List.ne_nil_of_mem hmem, hpass⟩
  · intro h
    obtain ⟨h, hpass⟩ := h
    obtain ⟨finding, hmem⟩ := List.exists_mem_of_ne_nil _ h
    rw [← severity_of_mem_findingsOfKind hmem] at hpass
    exact List.ne_nil_of_mem (List.mem_filter.2 ⟨hmem, hpass⟩)

/-- The references of an analysis are sound, and they stay so when it is filtered at any
severity. -/
theorem analyze_linked (settings : MeshSettings) (objects : List MeshObject) :
    let snapshot := Snapshot.ofObjects objects
    let graph := settings.analyze snapshot
    graph.Linked snapshot ∧ ∀ minimum, (graph.filterSeverity minimum).Linked snapshot := by
  intro snapshot graph
  constructor
  · exact .of_both (settings.hasFindings_analyze _) (fun key x => references_analyze_symm)
      onlyAbout_analyze
  · intro minimum
    refine .of_both (graph.hasFindings_filterSeverity minimum) ?_ ?_
    · intro key x h
      obtain ⟨hkept, hx⟩ := Graph.mem_references_filterSeverity.1 h
      obtain ⟨hne, hkind, hback⟩ := references_analyze_symm hx
      have hpass := (findings_filterSeverity_ne_nil_iff.1 hkept).2
      have hfindings := (settings.hasFindings_analyze _).findings_ne_nil_of_mem hback
      -- the other end has the same kind, so its findings pass the filter as well
      have hother := findings_filterSeverity_ne_nil_iff.2 ⟨hfindings, hkind ▸ hpass⟩
      exact ⟨hne, hkind, Graph.mem_references_filterSeverity.2 ⟨hother, hback⟩⟩
    · intro key h
      exact onlyAbout_analyze key (findings_filterSeverity_ne_nil_iff.1 h).1

end MeshSettings

end MeshAudit

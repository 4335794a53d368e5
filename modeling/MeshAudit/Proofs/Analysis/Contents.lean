import MeshAudit.Analysis
import MeshAudit.Proofs.Gateway.Overlap
import MeshAudit.Proofs.Mtls.RuleFailure
import MeshAudit.Proofs.Route.SharedHost

/-!
# Contents of an analysis

An analysis merges four graphs, one for each kind of object. Each of them speaks of objects of its
own kind only, so what the analysis says of an object is what the graph of its kind says.
-/

namespace MeshAudit

/-- A graph speaks only of the objects of a list. -/
def Graph.OnlyAbout (graph : Graph) (objects : List MeshObject) : Prop :=
  ∀ key, graph.findings key ≠ [] → ∃ object ∈ objects, ObjectKey.ofObject object = key

namespace Snapshot

/-- The objects of a kind. -/
def ofKind (snapshot : Snapshot) : Kind → List MeshObject
  | .gateway => snapshot.gateways
  | .virtualService => snapshot.virtualServices
  | .destinationRule => snapshot.destinationRules
  | .peerAuthentication => snapshot.peerAuthentications

/-- A snapshot of a list has each object of the list under its kind. -/
theorem mem_ofKind_ofObjects {objects : List MeshObject} {kind : Kind} {object : MeshObject} :
    object ∈ (ofObjects objects).ofKind kind ↔ object ∈ objects ∧ object.kind = kind := by
  cases kind <;> simp [ofObjects, ofKind]

/-- An object of a kind is an object of the snapshot. -/
theorem mem_objects_of_mem_ofKind {snapshot : Snapshot} {kind : Kind} {object : MeshObject}
    (h : object ∈ snapshot.ofKind kind) : object ∈ snapshot.objects := by
  unfold objects
  simp only [List.mem_append]
  cases kind with
  | gateway => exact .inl (.inl (.inl h))
  | virtualService => exact .inl (.inl (.inr h))
  | destinationRule => exact .inl (.inr h)
  | peerAuthentication => exact .inr h

end Snapshot

/-- Grouping by namespace takes in no other objects. -/
theorem mem_of_mem_byNamespace {objects group : List MeshObject} {object : MeshObject}
    (hgroup : group ∈ byNamespace objects) (h : object ∈ group) : object ∈ objects := by
  obtain ⟨ns, -, rfl⟩ := List.mem_map.1 hgroup
  exact (List.mem_filter.1 h).1

/-! ### Entries of checked objects -/

@[simp] theorem key_checkedEntry (object : MeshObject) (path : String) (failed : Option Check) :
    (checkedEntry object path failed).key = .ofObject object := by
  rw [checkedEntry, Entry.key_ofObject]

/-- An object has a finding when it fails the check. -/
@[simp] theorem findings_checkedEntry (object : MeshObject) (path : String)
    (failed : Option Check) :
    (checkedEntry object path failed).findings = failed.toList.map fun check => check.at path := by
  rw [checkedEntry, Entry.findings_ofObject]

@[simp] theorem not_mem_references_checkedEntry (object : MeshObject) (path : String)
    (failed : Option Check) (x : ObjectKey) :
    ¬ x ∈ (checkedEntry object path failed).references := by
  rw [checkedEntry]
  exact Entry.not_mem_references_ofObject _ _ _ x

/-- An object is valid when it passes the check. -/
@[simp] theorem valid_checkedEntry (object : MeshObject) (path : String) (failed : Option Check) :
    (checkedEntry object path failed).valid = failed.isNone := by
  rw [checkedEntry, Entry.valid_ofObject]
  cases failed <;> simp

/-! ### The graph of each kind -/

/-- The overlap check speaks of the gateways. -/
theorem onlyAbout_gatewayGraph (gateways : List MeshObject) :
    (gatewayGraph gateways).OnlyAbout gateways := by
  intro key h
  have hcontains := (Graph.hasFindings_ofEntries _).contains_iff.2 h
  obtain ⟨⟨b, c⟩, hp, hkey⟩ := contains_gatewayGraph.1 hcontains
  have hb : b.1 ∈ allBindings gateways := by
    have hmem := (mem_conflictPairs.1 hp).1
    exact List.fst_mem_of_mem_zipIdx hmem
  obtain ⟨gateway, hgateway, hb⟩ := List.mem_flatMap.1 hb
  exact ⟨gateway, hgateway, (owner_of_mem_scopedBindings hb).symm.trans hkey⟩

/-- The check of shared hosts speaks of the virtual services. -/
theorem onlyAbout_sharedHostGraph (settings : MeshSettings) (known : List String)
    (services : List MeshObject) :
    (sharedHostGraph settings known services).OnlyAbout services := by
  intro key h
  have hcontains := (Graph.hasFindings_ofEntries _).contains_iff.2 h
  obtain ⟨claim, ⟨service, hservice, hkey, -⟩, -⟩ := contains_sharedHostGraph.1 hcontains
  exact ⟨service, hservice, hkey⟩

namespace MeshSettings

variable (settings : MeshSettings) (snapshot : Snapshot)

/-- The graph of the virtual services merges one graph for each namespace. -/
theorem virtualServiceFindings_eq :
    settings.virtualServiceFindings snapshot =
      ((byNamespace snapshot.virtualServices).map
        (sharedHostGraph settings snapshot.namespaces)).foldl Graph.merge ∅ := by
  rw [List.foldl_map]
  rfl

/-- None of these graphs has an entry without findings. -/
theorem hasFindings_of_mem_sharedHostGraphs :
    ∀ graph ∈ (byNamespace snapshot.virtualServices).map
      (sharedHostGraph settings snapshot.namespaces), graph.HasFindings := by
  intro graph h
  obtain ⟨services, -, rfl⟩ := List.mem_map.1 h
  exact Graph.hasFindings_ofEntries _

/-- The findings of a virtual service are those of the checks of all namespaces. -/
theorem findings_virtualServiceFindings (key : ObjectKey) :
    (settings.virtualServiceFindings snapshot).findings key =
      (byNamespace snapshot.virtualServices).flatMap fun services =>
        (sharedHostGraph settings snapshot.namespaces services).findings key := by
  rw [virtualServiceFindings_eq, Graph.findings_foldl_merge, Graph.findings_empty, List.nil_append,
    List.flatMap_map]

/-- A virtual service refers to another one where the check of some namespace makes it. -/
theorem mem_references_virtualServiceFindings {key x : ObjectKey} :
    x ∈ (settings.virtualServiceFindings snapshot).references key ↔
      ∃ services ∈ byNamespace snapshot.virtualServices,
        x ∈ (sharedHostGraph settings snapshot.namespaces services).references key := by
  rw [virtualServiceFindings_eq, Graph.mem_references_foldl_merge
    (settings.hasFindings_of_mem_sharedHostGraphs snapshot)]
  simp only [Graph.not_mem_references_empty, false_or, List.mem_map, exists_exists_and_eq_and]

/-- The graph of the destination rules takes in two entries for each rule. -/
theorem destinationRuleFindings_eq :
    settings.destinationRuleFindings snapshot =
      .ofEntries (snapshot.destinationRules.flatMap fun rule =>
        [checkedEntry rule ruleModePath
            (disabledRuleCheck? settings (snapshot.policies settings rule.ns) rule),
          checkedEntry rule ruleModePath
            (requiredRuleCheck? settings (snapshot.policies settings rule.ns) rule)]) := by
  rw [destinationRuleFindings, destinationRuleGraph, List.flatMap_map]

/-- The findings of a destination rule are the failures of the rules with its key, in the order of
the snapshot. -/
theorem findings_destinationRuleFindings (key : ObjectKey) :
    (settings.destinationRuleFindings snapshot).findings key =
      (snapshot.destinationRules.filter fun rule => ObjectKey.ofObject rule = key).flatMap
        fun rule => (ruleFailure? settings snapshot rule).toList.map fun check =>
          check.at ruleModePath := by
  rw [destinationRuleFindings_eq, Graph.findings_ofEntries, List.filter_flatMap,
    List.flatMap_assoc, flatMap_filter]
  refine List.flatMap_congr fun rule _ => ?_
  rw [← toList_append_toList_eq]
  by_cases hk : ObjectKey.ofObject rule = key <;> simp [hk]

/-- A destination rule is valid when no rule with its key fails. -/
theorem isValid_destinationRuleFindings {key : ObjectKey} :
    (settings.destinationRuleFindings snapshot).isValid key = true ↔
      ∀ rule ∈ snapshot.destinationRules, ObjectKey.ofObject rule = key →
        ruleFailure? settings snapshot rule = none := by
  have hpass : ∀ failed : Option Check,
      ((failed.toList.map fun check => check.at ruleModePath) ≠ [] → failed.isNone = true) ↔
        failed = none := by
    intro failed
    cases failed <;> simp
  rw [destinationRuleFindings_eq, Graph.isValid_ofEntries]
  simp only [List.forall_mem_flatMap, List.forall_mem_cons, key_checkedEntry,
    findings_checkedEntry, valid_checkedEntry, hpass, ruleFailure?, Option.or_eq_none_iff]
  refine forall₂_congr fun rule _ => ?_
  by_cases hk : ObjectKey.ofObject rule = key <;> simp [hk]

/-- The graph of the destination rules has no references. -/
theorem not_mem_references_destinationRuleFindings (key x : ObjectKey) :
    ¬ x ∈ (settings.destinationRuleFindings snapshot).references key := by
  rw [destinationRuleFindings_eq, Graph.mem_references_ofEntries]
  intro h
  obtain ⟨entry, hmem, -, -, hx⟩ := h
  obtain ⟨rule, -, hmem⟩ := List.mem_flatMap.1 hmem
  rcases List.mem_pair.1 hmem with rfl | rfl
  · exact not_mem_references_checkedEntry _ _ _ x hx
  · exact not_mem_references_checkedEntry _ _ _ x hx

/-- The findings of a peer authentication are the failures of the policies with its key outside the
root namespace, in the order of the snapshot. -/
theorem findings_peerAuthenticationFindings (key : ObjectKey) :
    (settings.peerAuthenticationFindings snapshot).findings key =
      ((snapshot.peerAuthentications.filter fun policy =>
          policy.ns ≠ settings.rootNamespace).filter fun policy =>
            ObjectKey.ofObject policy = key).flatMap fun policy =>
        (disabledPolicyCheck? settings snapshot.destinationRules policy).toList.map fun check =>
          check.at policyModePath := by
  rw [peerAuthenticationFindings, peerAuthenticationGraph, Graph.findings_ofEntries,
    List.filter_map, List.flatMap_map]
  simp only [Function.comp_def, key_checkedEntry, findings_checkedEntry]

/-- A peer authentication fails with an error. -/
theorem severity_of_disabledPolicyCheck? {rules : List MeshObject} {policy : MeshObject}
    {check : Check} (h : disabledPolicyCheck? settings rules policy = some check) :
    check.severity = .error := by
  unfold disabledPolicyCheck? at h
  split at h
  · cases h
    rfl
  · cases h

/-- The graph of the peer authentications has no references. -/
theorem not_mem_references_peerAuthenticationFindings (key x : ObjectKey) :
    ¬ x ∈ (settings.peerAuthenticationFindings snapshot).references key := by
  rw [peerAuthenticationFindings, peerAuthenticationGraph, Graph.mem_references_ofEntries]
  intro h
  obtain ⟨entry, hmem, -, -, hx⟩ := h
  obtain ⟨policy, -, rfl⟩ := List.mem_map.1 hmem
  exact not_mem_references_checkedEntry _ _ _ x hx

/-! ### The four graphs together -/

/-- The findings about the objects of a kind. -/
def findingsOfKind : Kind → Graph
  | .gateway => settings.gatewayFindings snapshot
  | .virtualService => settings.virtualServiceFindings snapshot
  | .destinationRule => settings.destinationRuleFindings snapshot
  | .peerAuthentication => settings.peerAuthenticationFindings snapshot

/-- The analysis merges the graphs of all kinds. -/
theorem analyze_eq :
    settings.analyze snapshot =
      (Kind.all.map (settings.findingsOfKind snapshot)).foldl Graph.merge ∅ := rfl

/-- The graph of a kind has no entry without findings. -/
theorem hasFindings_findingsOfKind (kind : Kind) :
    (settings.findingsOfKind snapshot kind).HasFindings := by
  cases kind with
  | gateway => exact Graph.hasFindings_ofEntries _
  | virtualService =>
    change (settings.virtualServiceFindings snapshot).HasFindings
    rw [virtualServiceFindings_eq]
    exact Graph.hasFindings_empty.foldl_merge _
  | destinationRule => exact Graph.hasFindings_ofEntries _
  | peerAuthentication => exact Graph.hasFindings_ofEntries _

/-- None of the graphs that the analysis merges has an entry without findings. -/
theorem hasFindings_of_mem_kindGraphs :
    ∀ graph ∈ Kind.all.map (settings.findingsOfKind snapshot), graph.HasFindings := by
  intro graph h
  obtain ⟨kind, -, rfl⟩ := List.mem_map.1 h
  exact settings.hasFindings_findingsOfKind snapshot kind

/-- The analysis has no entry without findings. -/
theorem hasFindings_analyze : (settings.analyze snapshot).HasFindings := by
  rw [analyze_eq]
  exact Graph.hasFindings_empty.foldl_merge _

/-- The graph of a kind speaks of the objects of this kind. -/
theorem onlyAbout_findingsOfKind (kind : Kind) :
    (settings.findingsOfKind snapshot kind).OnlyAbout (snapshot.ofKind kind) := by
  intro key h
  cases kind with
  | gateway =>
    obtain ⟨gateway, hmem, hkey⟩ := onlyAbout_gatewayGraph _ key h
    obtain ⟨group, hgroup, hmem⟩ := List.mem_flatten.1 hmem
    exact ⟨gateway, mem_of_mem_byNamespace hgroup hmem, hkey⟩
  | virtualService =>
    change (settings.virtualServiceFindings snapshot).findings key ≠ [] at h
    rw [findings_virtualServiceFindings, ne_eq, List.flatMap_eq_nil_iff] at h
    obtain ⟨group, hgroup, hne⟩ : ∃ group ∈ byNamespace snapshot.virtualServices,
        (sharedHostGraph settings snapshot.namespaces group).findings key ≠ [] := by
      simpa using h
    obtain ⟨service, hmem, hkey⟩ := onlyAbout_sharedHostGraph _ _ _ key hne
    exact ⟨service, mem_of_mem_byNamespace hgroup hmem, hkey⟩
  | destinationRule =>
    change (settings.destinationRuleFindings snapshot).findings key ≠ [] at h
    rw [findings_destinationRuleFindings] at h
    obtain ⟨finding, hfinding⟩ := List.exists_mem_of_ne_nil _ h
    obtain ⟨rule, hrule, -⟩ := List.mem_flatMap.1 hfinding
    obtain ⟨hmem, hkey⟩ := List.mem_filter.1 hrule
    exact ⟨rule, hmem, by simpa using hkey⟩
  | peerAuthentication =>
    change (settings.peerAuthenticationFindings snapshot).findings key ≠ [] at h
    rw [findings_peerAuthenticationFindings] at h
    obtain ⟨finding, hfinding⟩ := List.exists_mem_of_ne_nil _ h
    obtain ⟨policy, hpolicy, -⟩ := List.mem_flatMap.1 hfinding
    obtain ⟨hpolicy, hkey⟩ := List.mem_filter.1 hpolicy
    exact ⟨policy, (List.mem_filter.1 hpolicy).1, by simpa using hkey⟩

variable (objects : List MeshObject)

/-- The graph of a kind has nothing to say of objects of another kind. -/
theorem findings_findingsOfKind_eq_nil {kind : Kind} {key : ObjectKey} (h : key.kind ≠ kind) :
    (settings.findingsOfKind (.ofObjects objects) kind).findings key = [] := by
  by_contra hne
  obtain ⟨object, hmem, rfl⟩ := settings.onlyAbout_findingsOfKind (.ofObjects objects) kind key hne
  exact h (Snapshot.mem_ofKind_ofObjects.1 hmem).2

/-- The findings that the analysis has about an object are those of the graph of its kind. -/
theorem findings_analyze (key : ObjectKey) :
    (settings.analyze (.ofObjects objects)).findings key =
      (settings.findingsOfKind (.ofObjects objects) key.kind).findings key := by
  have hother : ∀ kind, key.kind ≠ kind →
      (settings.findingsOfKind (.ofObjects objects) kind).findings key = [] :=
    fun kind h => settings.findings_findingsOfKind_eq_nil objects h
  rw [analyze_eq, Graph.findings_foldl_merge, Graph.findings_empty, List.nil_append]
  cases hk : key.kind <;> simp [Kind.all, hk, hother]

/-- The references that the analysis has from an object are those of the graph of its kind. -/
theorem mem_references_analyze {key x : ObjectKey} :
    x ∈ (settings.analyze (.ofObjects objects)).references key ↔
      x ∈ (settings.findingsOfKind (.ofObjects objects) key.kind).references key := by
  rw [analyze_eq, Graph.mem_references_foldl_merge
    (settings.hasFindings_of_mem_kindGraphs _)]
  simp only [Graph.not_mem_references_empty, false_or, List.mem_map, exists_exists_and_eq_and]
  constructor
  · intro h
    obtain ⟨kind, -, hx⟩ := h
    have hne := (settings.hasFindings_findingsOfKind _ kind).findings_ne_nil_of_mem hx
    by_cases hk : key.kind = kind
    · exact hk ▸ hx
    · exact absurd (settings.findings_findingsOfKind_eq_nil objects hk) hne
  · intro hx
    exact ⟨key.kind, by cases key.kind <;> decide, hx⟩

/-- Whether an object is valid by the analysis is decided by the graph of its kind. -/
theorem isValid_analyze {key : ObjectKey} :
    (settings.analyze (.ofObjects objects)).isValid key = true ↔
      (settings.findingsOfKind (.ofObjects objects) key.kind).isValid key = true := by
  rw [analyze_eq, Graph.isValid_foldl_merge (settings.hasFindings_of_mem_kindGraphs _)]
  simp only [Graph.isValid_empty, true_and, List.forall_mem_map]
  constructor
  · intro h
    exact h key.kind (by cases key.kind <;> decide)
  · intro h kind _
    by_cases hk : key.kind = kind
    · exact hk ▸ h
    · have hnil := settings.findings_findingsOfKind_eq_nil objects hk
      exact (settings.hasFindings_findingsOfKind _ kind).isValid_of_findings_eq_nil hnil

end MeshSettings

end MeshAudit

import MeshAudit.Proofs.Analysis.Contents
import MeshAudit.Proofs.Graph.Soundness

/-!
# Graphs stay sound

Whatever is done with graphs, they stay sound: graphs of an analysis, graphs made of entries, and
all that merging and filtering make of them. Whoever reads a graph can rely on it that an object is
listed under its own key, for some finding, and as invalid exactly for an error.
-/

namespace MeshAudit

/-! ### Graphs of an analysis -/

/-- The report of a conflict of gateways is sound. -/
theorem HostBinding.sound_conflictEntry (binding other : HostBinding) :
    (binding.conflictEntry other).Sound :=
  ((Entry.sound_ofKey _).addFinding _).addReference _

/-- The overlap check makes a sound graph. -/
theorem sound_gatewayGraph (gateways : List MeshObject) : (gatewayGraph gateways).Sound := by
  refine Graph.sound_ofEntries fun entry h => ?_
  obtain ⟨p, -, rfl⟩ := List.mem_map.1 ((overlapEntries_perm _).mem_iff.1 h)
  exact HostBinding.sound_conflictEntry _ _

/-- The warning of a virtual service is sound. -/
theorem sound_sharedHostEntry (key : ObjectKey) (others : List ObjectKey) :
    (sharedHostEntry key others).Sound :=
  ((Entry.sound_ofKey key).addFinding _).addReferences others

/-- The check of shared hosts makes a sound graph. -/
theorem sound_sharedHostGraph (settings : MeshSettings) (known : List String)
    (services : List MeshObject) : (sharedHostGraph settings known services).Sound := by
  rw [sharedHostGraph_eq]
  refine Graph.sound_ofEntries fun entry h => ?_
  obtain ⟨claim, hentry⟩ := mem_sharedHostEntries.1 h
  obtain ⟨key, -, ⟨-, rfl⟩ | ⟨-, rfl⟩⟩ := mem_claimEntries.1 hentry
  · exact sound_sharedHostEntry key _
  · exact sound_sharedHostEntry key _

/-- The entry of a checked object is sound when the check fails with errors only: it counts as
invalid whenever the check fails. -/
theorem sound_checkedEntry {object : MeshObject} {path : String} {failed : Option Check}
    (h : ∀ check, failed = some check → check.severity = .error) :
    (checkedEntry object path failed).Sound where
  invalid_iff := by
    rw [valid_checkedEntry, findings_checkedEntry]
    cases failed with
    | none => simp
    | some check =>
      have hcheck : check.severity = .error := h check rfl
      have hfinding : (check.at path).severity = .error := hcheck
      simp [hfinding]
  ne := fun x hx => absurd hx (not_mem_references_checkedEntry _ _ _ x)

namespace MeshSettings

variable (settings : MeshSettings) (snapshot : Snapshot)

/-- The graph of the destination rules is sound. -/
theorem sound_destinationRuleFindings : (settings.destinationRuleFindings snapshot).Sound := by
  rw [destinationRuleFindings_eq]
  refine Graph.sound_ofEntries fun entry h => ?_
  obtain ⟨rule, -, hmem⟩ := List.mem_flatMap.1 h
  rcases List.mem_pair.1 hmem with rfl | rfl
  · refine sound_checkedEntry fun check hcheck => ?_
    exact (disabledRuleCheck?_eq_some_iff.1 hcheck).2.severity_eq
  · refine sound_checkedEntry fun check hcheck => ?_
    exact (requiredRuleCheck?_eq_some_iff.1 hcheck).2.severity_eq

/-- The graph of the peer authentications is sound. -/
theorem sound_peerAuthenticationFindings :
    (settings.peerAuthenticationFindings snapshot).Sound := by
  refine Graph.sound_ofEntries fun entry h => ?_
  obtain ⟨policy, -, rfl⟩ := List.mem_map.1 h
  exact sound_checkedEntry fun check hcheck => settings.severity_of_disabledPolicyCheck? hcheck

/-- The graph of each kind is sound. -/
theorem sound_findingsOfKind (kind : Kind) : (settings.findingsOfKind snapshot kind).Sound := by
  cases kind with
  | gateway => exact sound_gatewayGraph _
  | virtualService =>
    change (settings.virtualServiceFindings snapshot).Sound
    rw [virtualServiceFindings_eq]
    refine Graph.sound_empty.foldl_merge fun graph h => ?_
    obtain ⟨services, -, rfl⟩ := List.mem_map.1 h
    exact sound_sharedHostGraph settings _ services
  | destinationRule => exact settings.sound_destinationRuleFindings snapshot
  | peerAuthentication => exact settings.sound_peerAuthenticationFindings snapshot

/-- The graph of an analysis is sound. -/
theorem sound_analyze : (settings.analyze snapshot).Sound := by
  rw [analyze_eq]
  refine Graph.sound_empty.foldl_merge fun graph h => ?_
  obtain ⟨kind, -, rfl⟩ := List.mem_map.1 h
  exact settings.sound_findingsOfKind snapshot kind

end MeshSettings

/-! ### Graphs of a whole run -/

/-- Graphs by name. -/
abbrev GraphTable := String → Graph

/-- What can be done to one graph of a table. -/
inductive GraphAction where
  /-- An entry is taken in. -/
  | mergeEntry (key : ObjectKey) (draft : EntryDraft)
  /-- Another graph is merged in. -/
  | merge (source : String)
  /-- The graph is made anew from entries. -/
  | collect (drafts : List (ObjectKey × EntryDraft))
  /-- The graph is replaced by what is left of another one at a severity. -/
  | filterSeverity (source : String) (minimum : Severity)
  /-- The graph is replaced by the analysis of a snapshot. -/
  | analyze (settings : MeshSettings) (snapshot : Snapshot)

namespace GraphAction

/-- The graph that an action makes of the one it is done to. -/
def result (table : GraphTable) (graph : Graph) : GraphAction → Graph
  | mergeEntry key draft => graph.mergeEntry (draft.entry key)
  | merge source => graph.merge (table source)
  | collect drafts => .ofEntries (drafts.map fun draft => draft.2.entry draft.1)
  | filterSeverity source minimum => (table source).filterSeverity minimum
  | analyze settings snapshot => settings.analyze snapshot

/-- The table after an action is done to the graph of a name. -/
def apply (table : GraphTable) (action : String × GraphAction) : GraphTable := fun name =>
  if name = action.1 then action.2.result table (table name) else table name

/-- The table after several actions, where every graph is empty at first. -/
def run (actions : List (String × GraphAction)) : GraphTable := actions.foldl apply fun _ => ∅

/-- An action makes a sound graph of sound ones. -/
theorem sound_result {table : GraphTable} (sound : ∀ name, (table name).Sound) {graph : Graph}
    (soundGraph : graph.Sound) (action : GraphAction) : (action.result table graph).Sound := by
  cases action with
  | mergeEntry key draft => exact soundGraph.mergeEntry (draft.sound_entry key)
  | merge source => exact soundGraph.merge (sound source)
  | collect drafts =>
    refine Graph.sound_ofEntries fun entry h => ?_
    obtain ⟨draft, -, rfl⟩ := List.mem_map.1 h
    exact draft.2.sound_entry draft.1
  | filterSeverity source minimum => exact (sound source).filterSeverity minimum
  | analyze settings snapshot => exact settings.sound_analyze snapshot

/-- A step keeps all graphs sound. -/
theorem sound_apply {table : GraphTable} (sound : ∀ name, (table name).Sound)
    (action : String × GraphAction) (name : String) : (apply table action name).Sound := by
  unfold apply
  split
  · exact sound_result sound (sound name) action.2
  · exact sound name

/-- Steps one after another keep all graphs sound. -/
theorem sound_foldl_apply {table : GraphTable} (sound : ∀ name, (table name).Sound)
    (actions : List (String × GraphAction)) (name : String) :
    (actions.foldl apply table name).Sound := by
  induction actions generalizing table with
  | nil => exact sound name
  | cons action rest ih => exact ih fun other => sound_apply sound action other

end GraphAction

/-- In every graph that any sequence of actions makes, and in every analysis, each entry is found
under its own key, has findings, never refers to itself, and counts as invalid exactly when one of
its findings is an error. -/
theorem graphs_stay_sound (actions : List (String × GraphAction)) (settings : MeshSettings)
    (snapshot : Snapshot) :
    (∀ name, (GraphAction.run actions name).Sound) ∧ (settings.analyze snapshot).Sound := by
  constructor
  · intro name
    exact GraphAction.sound_foldl_apply (fun _ => Graph.sound_empty) actions name
  · exact settings.sound_analyze snapshot

end MeshAudit

import MeshAudit.Proofs.Mtls.Inheritance

/-!
# The cascade of mTLS statuses

The status of a namespace is resolved against that of the mesh by rules of which the first that
applies decides. One of the rules starts the resolution anew, for a mesh in place of the namespace.
Since nothing is known of a namespace then, the rule does not apply a second time, so every
resolution ends, whatever statuses and modes it is given. What it ends with is told here without
the recursion.
-/

namespace MeshAudit

/-! ### Unknown modes -/

/-- The mode is a word outside the vocabulary. -/
def MtlsMode.IsUnknown (mode : MtlsMode) : Prop := ∃ word, mode = .other word

/-- A word is read as an unknown mode when it is none of the words with a meaning. -/
theorem MtlsMode.ofWord_eq_other_iff {word : String} :
    MtlsMode.ofWord word = .other word ↔
      word ∉ ["", "DISABLE", "PERMISSIVE", "STRICT", "MUTUAL", "ISTIO_MUTUAL"] := by
  unfold MtlsMode.ofWord
  constructor
  · intro h hword
    simp only [List.mem_cons, List.not_mem_nil, or_false] at hword
    rcases hword with rfl | rfl | rfl | rfl | rfl | rfl
    all_goals cases h
  · intro h
    simp only [List.mem_cons, List.not_mem_nil, or_false, not_or] at h
    obtain ⟨hunset, hdisable, hpermissive, hstrict, hmutual, histio⟩ := h
    rw [if_neg hunset, if_neg hdisable, if_neg hpermissive, if_neg hstrict, if_neg hmutual,
      if_neg histio]

/-- Only one mode is not set. -/
theorem MtlsMode.not_isSet_iff {mode : MtlsMode} : (!mode.isSet) = true ↔ mode = .unset := by
  simp [isSet]

/-- Two modes require mTLS. -/
theorem MtlsMode.requiresMutual_iff {mode : MtlsMode} :
    mode.requiresMutual = true ↔ mode = .mutualTls ∨ mode = .istioMutual := by
  cases mode with
  | mutualTls => simp [requiresMutual]
  | istioMutual => simp [requiresMutual]
  | unset => simp [requiresMutual]
  | disable => simp [requiresMutual]
  | permissive => simp [requiresMutual]
  | strict => simp [requiresMutual]
  | other word => simp [requiresMutual]

/-- An unknown mode is set, and it is none of the modes with a meaning. -/
theorem MtlsMode.IsUnknown.set_and_unnamed {mode : MtlsMode} (h : mode.IsUnknown) :
    mode.isSet = true ∧ mode.requiresMutual = false ∧
      mode ∉ [.unset, .disable, .permissive, .strict, .mutualTls, .istioMutual] := by
  obtain ⟨word, rfl⟩ := h
  exact ⟨rfl, rfl, by simp⟩

namespace MeshSettings

variable (settings : MeshSettings)

/-- A scope with an unknown mode is partly enabled, whatever its other mode and the settings are. -/
theorem tableStatus_of_isUnknown {rule policy : MtlsMode}
    (h : rule.IsUnknown ∨ policy.IsUnknown) :
    settings.tableStatus rule policy = .partiallyEnabled := by
  rcases h with ⟨word, rfl⟩ | ⟨word, rfl⟩
  · -- the rule neither requires nor forbids mTLS, and is set, so nothing is negotiated
    simp [tableStatus, MtlsMode.isSet, MtlsMode.requiresMutual]
  · simp [tableStatus, MtlsMode.isSet]

/-! ### The rules for a mesh -/

/-- Negotiation completes a mesh where one side asks for mTLS and the other side is open. -/
theorem completesHalf_iff {mesh : ScopeStatus} :
    settings.completesHalf mesh = true ↔
      settings.autoMtls = true ∧
        ((mesh.policy = .strict ∨
            (mesh.policy = .permissive ∧ settings.allowPermissive = true)) ∧
            mesh.rule = .unset ∨
          (mesh.rule = .mutualTls ∨ mesh.rule = .istioMutual) ∧ mesh.policy = .unset) := by
  simp only [completesHalf, Bool.and_eq_true, Bool.or_eq_true, decide_eq_true_iff,
    MtlsMode.not_isSet_iff, MtlsMode.requiresMutual_iff]
  refine and_congr_right fun _ => ?_
  rw [or_right_comm, ← or_and_right, and_comm (b := mesh.policy = .permissive)]

/-- The rules for a mesh in terms of its status and its two modes. -/
theorem meshRules_eq (mesh : ScopeStatus) :
    settings.meshRules mesh =
      match mesh.status with
      | some .enabled => .enabled
      | some .disabled => .disabled
      | _ =>
        if mesh.rule = .unset ∧ mesh.policy = .unset then .notEnabled
        else if mesh.policy = .disable ∧ mesh.rule = .unset ∨
            mesh.rule = .disable ∧ mesh.policy = .unset then .disabled
        else if settings.autoMtls = true ∧
            ((mesh.policy = .strict ∨
                (mesh.policy = .permissive ∧ settings.allowPermissive = true)) ∧
                mesh.rule = .unset ∨
              (mesh.rule = .mutualTls ∨ mesh.rule = .istioMutual) ∧ mesh.policy = .unset) then
          .enabled
        else .partiallyEnabled := by
  have hnone : (!mesh.policy.isSet && !mesh.rule.isSet) = true ↔
      mesh.rule = .unset ∧ mesh.policy = .unset := by
    rw [Bool.and_eq_true, MtlsMode.not_isSet_iff, MtlsMode.not_isSet_iff, and_comm]
  have hdisabled : ((decide (mesh.policy = .disable) && !mesh.rule.isSet) ||
      (decide (mesh.rule = .disable) && !mesh.policy.isSet)) = true ↔
      mesh.policy = .disable ∧ mesh.rule = .unset ∨
        mesh.rule = .disable ∧ mesh.policy = .unset := by
    simp only [Bool.or_eq_true, Bool.and_eq_true, decide_eq_true_iff, MtlsMode.not_isSet_iff]
  unfold meshRules
  simp only [hnone, hdisabled, completesHalf_iff]
  cases hstatus : mesh.status with
  | none => simp only [reduceCtorEq, if_false]
  | some status =>
    cases status with
    | enabled => simp only [if_true]
    | disabled => simp only [Option.some.injEq, reduceCtorEq, if_false, if_true]
    | partiallyEnabled => simp only [Option.some.injEq, reduceCtorEq, if_false]
    | notEnabled => simp only [Option.some.injEq, reduceCtorEq, if_false]

/-- A mesh with an unknown mode is partly enabled, unless it comes with a status that leaves nothing
open. -/
theorem meshRules_of_isUnknown {mesh : ScopeStatus} (unknown : mesh.rule.IsUnknown ∨
    mesh.policy.IsUnknown) (opened : mesh.status ≠ some .enabled ∧ mesh.status ≠ some .disabled) :
    settings.meshRules mesh = .partiallyEnabled := by
  rw [meshRules_eq]
  split
  · next h => exact absurd h opened.1
  · next h => exact absurd h opened.2
  · -- every other rule asks that one of the modes is a certain one and the other one is unset
    rcases unknown with ⟨word, hrule⟩ | ⟨word, hpolicy⟩
    · simp [hrule]
    · simp [hpolicy]

/-! ### Resolutions -/

/-- How the status of a namespace is resolved against that of the mesh, with the number of times
that the resolution starts anew. -/
inductive Resolves : ScopeStatus → ScopeStatus → Nat → MtlsStatus → Prop
  /-- A status of the namespace that leaves nothing to inherit stays. -/
  | own {ns mesh : ScopeStatus} {status : MtlsStatus} (held : ns.status = some status)
      (defined : status.isDefined = true) : Resolves ns mesh 0 status
  /-- A namespace that is partly configured has its gaps filled, and what this makes of it is
  resolved anew as a mesh, with nothing known of a namespace. -/
  | inherited {ns mesh : ScopeStatus} {steps : Nat} {status : MtlsStatus}
      (partly : ns.status = some .partiallyEnabled)
      (anew : Resolves {} (settings.scopeStatus (ns.rule.orElse mesh.rule)
        (ns.policy.orElse mesh.policy)) steps status) : Resolves ns mesh (steps + 1) status
  /-- Any other namespace has what the rules for a mesh make of the mesh. -/
  | mesh {ns mesh : ScopeStatus} (nothing : ns.status = none ∨ ns.status = some .notEnabled) :
      Resolves ns mesh 0 (settings.meshRules mesh)

variable {settings} {ns mesh : ScopeStatus}

/-- Where nothing is known of a namespace, the rules for a mesh decide. -/
theorem overallStatus_of_none (h : ns.status = none) (mesh : ScopeStatus) :
    settings.overallStatus ns mesh = settings.meshRules mesh := by
  rw [overallStatus]
  simp only [h, reduceCtorEq, if_false]
  rfl

/-- A resolution in which nothing is known of the namespace ends at once. -/
theorem Resolves.of_none {steps : Nat} {status : MtlsStatus}
    (resolves : settings.Resolves ns mesh steps status) (h : ns.status = none) :
    steps = 0 ∧ status = settings.meshRules mesh := by
  cases resolves with
  | own held _ => rw [h] at held; cases held
  | inherited partly _ => rw [h] at partly; cases partly
  | mesh _ => exact ⟨rfl, rfl⟩

/-- Every resolution ends with the overall status, and it starts anew once if the namespace is
partly configured and else not at all. -/
theorem resolves_iff {steps : Nat} {status : MtlsStatus} :
    settings.Resolves ns mesh steps status ↔
      steps = (if ns.status = some .partiallyEnabled then 1 else 0) ∧
        status = settings.overallStatus ns mesh := by
  constructor
  · intro h
    cases h with
    | own held defined =>
      have hne : ns.status ≠ some .partiallyEnabled := by
        rw [held]
        rintro ⟨⟩
        cases defined
      exact ⟨(if_neg hne).symm, (settings.overallStatus_of_isDefined held defined mesh).symm⟩
    | inherited partly anew =>
      obtain ⟨rfl, rfl⟩ := anew.of_none rfl
      exact ⟨(if_pos partly).symm, (settings.overallStatus_of_partiallyEnabled partly mesh).symm⟩
    | mesh nothing =>
      rcases nothing with hnone | hnot
      · exact ⟨by rw [hnone]; rfl, (overallStatus_of_none hnone mesh).symm⟩
      · exact ⟨by rw [hnot]; rfl, (settings.overallStatus_of_notEnabled hnot mesh).symm⟩
  · rintro ⟨rfl, rfl⟩
    cases hstatus : ns.status with
    | none =>
      rw [overallStatus_of_none hstatus]
      exact .mesh (.inl hstatus)
    | some own =>
      cases own with
      | enabled =>
        rw [settings.overallStatus_of_isDefined hstatus rfl]
        exact .own hstatus rfl
      | disabled =>
        rw [settings.overallStatus_of_isDefined hstatus rfl]
        exact .own hstatus rfl
      | notEnabled =>
        rw [settings.overallStatus_of_notEnabled hstatus]
        exact .mesh (.inr hstatus)
      | partiallyEnabled =>
        rw [settings.overallStatus_of_partiallyEnabled hstatus]
        exact .inherited hstatus (.mesh (.inl rfl))

end MeshSettings

/-! ### The cascade -/

/-- Every resolution of a namespace against a mesh ends with the overall status, after it started
anew at most once. The rules for a mesh decide in their order, for the mesh or for what a partly
enabled namespace completes, and unknown modes count as set. -/
theorem overallStatus_cascade (settings : MeshSettings) (ns mesh : ScopeStatus) :
    (∀ steps status, settings.Resolves ns mesh steps status ↔
      steps = (if ns.status = some .partiallyEnabled then 1 else 0) ∧
        status = settings.overallStatus ns mesh) ∧
    settings.overallStatus ns mesh =
      (match ns.status with
      | some .enabled => .enabled
      | some .disabled => .disabled
      | some .partiallyEnabled =>
        let rule := ns.rule.orElse mesh.rule
        let policy := ns.policy.orElse mesh.policy
        settings.meshRules ⟨rule, policy, some (settings.tableStatus rule policy)⟩
      | _ => settings.meshRules mesh) ∧
    (∀ scope : ScopeStatus, settings.meshRules scope =
      match scope.status with
      | some .enabled => .enabled
      | some .disabled => .disabled
      | _ =>
        if scope.rule = .unset ∧ scope.policy = .unset then .notEnabled
        else if scope.policy = .disable ∧ scope.rule = .unset ∨
            scope.rule = .disable ∧ scope.policy = .unset then .disabled
        else if settings.autoMtls = true ∧
            ((scope.policy = .strict ∨
                (scope.policy = .permissive ∧ settings.allowPermissive = true)) ∧
                scope.rule = .unset ∨
              (scope.rule = .mutualTls ∨ scope.rule = .istioMutual) ∧ scope.policy = .unset) then
          .enabled
        else .partiallyEnabled) ∧
    (∀ word, MtlsMode.ofWord word = .other word ↔
      word ∉ ["", "DISABLE", "PERMISSIVE", "STRICT", "MUTUAL", "ISTIO_MUTUAL"]) ∧
    (∀ mode : MtlsMode, mode.IsUnknown → mode.isSet = true ∧ mode.requiresMutual = false ∧
      mode ∉ [.unset, .disable, .permissive, .strict, .mutualTls, .istioMutual]) ∧
    ∀ scope : ScopeStatus, scope.rule.IsUnknown ∨ scope.policy.IsUnknown →
      settings.tableStatus scope.rule scope.policy = .partiallyEnabled ∧
      (scope.status ≠ some .enabled ∧ scope.status ≠ some .disabled →
        settings.meshRules scope = .partiallyEnabled) := by
  refine ⟨fun steps status => MeshSettings.resolves_iff, ?_, settings.meshRules_eq,
    fun word => MtlsMode.ofWord_eq_other_iff, fun mode h => h.set_and_unnamed,
    fun scope h => ⟨settings.tableStatus_of_isUnknown h, settings.meshRules_of_isUnknown h⟩⟩
  cases hstatus : ns.status with
  | none => exact MeshSettings.overallStatus_of_none hstatus mesh
  | some status =>
    cases status with
    | enabled => exact settings.overallStatus_of_isDefined hstatus rfl mesh
    | disabled => exact settings.overallStatus_of_isDefined hstatus rfl mesh
    | partiallyEnabled => exact settings.overallStatus_of_partiallyEnabled hstatus mesh
    | notEnabled => exact settings.overallStatus_of_notEnabled hstatus mesh

/-- A namespace that calls itself partly enabled without a mode takes both modes of the mesh and not
its status, one that calls itself not enabled takes the status, and an unknown mode of the namespace
keeps it partly enabled. -/
theorem overallStatus_cascade_inconsistent :
    let settings : MeshSettings := {}
    let partly : ScopeStatus := { status := some .partiallyEnabled }
    let mesh : ScopeStatus := ⟨.istioMutual, .strict, some .disabled⟩
    let unknown : ScopeStatus := ⟨.ofWord "SIMPLE", .unset, some .partiallyEnabled⟩
    settings.Resolves partly mesh 1 .enabled ∧
    settings.Resolves { status := some .notEnabled } mesh 0 .disabled ∧
    (unknown.rule.IsUnknown ∧ settings.meshRules unknown = .partiallyEnabled) ∧
    settings.overallStatus unknown mesh = .partiallyEnabled := by
  intro settings partly mesh unknown
  have hunknown : unknown.rule.IsUnknown := ⟨"SIMPLE", by decide⟩
  obtain ⟨hresolves, hpartly, -⟩ := overallStatus_cascade settings partly mesh
  obtain ⟨hresolvesNot, hnot, -⟩ :=
    overallStatus_cascade settings { status := some .notEnabled } mesh
  obtain ⟨-, hoverall, -, -, -, hpartial⟩ := overallStatus_cascade settings unknown mesh
  obtain ⟨-, hrules⟩ := hpartial unknown (.inl hunknown)
  refine ⟨(hresolves 1 _).2 ⟨rfl, ?_⟩, (hresolvesNot 0 _).2 ⟨rfl, ?_⟩,
    ⟨hunknown, hrules (by decide)⟩, hoverall.trans (by decide)⟩
  · exact (hpartly.trans (by decide)).symm
  · exact (hnot.trans (by decide)).symm

end MeshAudit

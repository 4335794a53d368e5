import MeshAudit.Analysis

/-!
# Inheritance of mTLS settings

A namespace that settles its own mTLS keeps what it has. Every other one gets what a mesh with its
effective modes would get, where the mode of the mesh stands in for a mode that the namespace leaves
open. The status of the mesh goes through the rules for a mesh once when it is read and once more
when the namespace inherits from it, so the main step is that the second time changes nothing.
-/

namespace MeshAudit

/-! ### Modes -/

/-- A mode that is set stays. -/
theorem MtlsMode.orElse_of_ne_unset {mode : MtlsMode} (h : mode ≠ .unset) (fallback : MtlsMode) :
    mode.orElse fallback = mode := by
  have hset : mode.isSet = true := by simpa [isSet] using h
  rw [orElse, if_pos hset]

namespace MeshSettings

variable (settings : MeshSettings)

/-! ### The rules for a mesh -/

/-- What the rules for a mesh make of its two modes and of the status that it comes with. -/
def meshRules (mesh : ScopeStatus) : MtlsStatus :=
  if mesh.status = some .enabled then .enabled
  else if mesh.status = some .disabled then .disabled
  else if !mesh.policy.isSet && !mesh.rule.isSet then .notEnabled
  else if (mesh.policy = .disable && !mesh.rule.isSet) ||
      (mesh.rule = .disable && !mesh.policy.isSet) then .disabled
  else if settings.completesHalf mesh then .enabled
  else .partiallyEnabled

/-- Whether negotiation completes a mesh is a matter of its modes, not of its status. -/
theorem completesHalf_with_status (mesh : ScopeStatus) (status : Option MtlsStatus) :
    settings.completesHalf { mesh with status := status } = settings.completesHalf mesh := rfl

/-- A mesh that carries the outcome of its rules gets the same outcome from them again. -/
theorem meshRules_meshRules (mesh : ScopeStatus) :
    settings.meshRules { mesh with status := some (settings.meshRules mesh) } =
      settings.meshRules mesh := by
  have hagain : ∀ status, settings.meshRules mesh = status →
      settings.meshRules { mesh with status := some status } = status := by
    intro status h
    unfold meshRules at h ⊢
    rw [completesHalf_with_status]
    cases status with
    | enabled => rfl
    | disabled => rfl
    -- no status settles these two, so only the modes decided, and they are the same
    | notEnabled => grind
    | partiallyEnabled => grind
  exact hagain _ rfl

/-- The status of a mesh is the outcome of the rules for its modes and their table status. -/
theorem status_meshStatus (rule policy : MtlsMode) :
    (settings.meshStatus rule policy).status =
      some (settings.meshRules (settings.scopeStatus rule policy)) := by
  rw [meshStatus, overallStatus]
  rfl

/-- The rules for a mesh make the same of a mesh before and after its status is read. -/
theorem meshRules_meshStatus (rule policy : MtlsMode) :
    settings.meshRules (settings.meshStatus rule policy) =
      settings.meshRules (settings.scopeStatus rule policy) := by
  have hmesh : settings.meshStatus rule policy =
      { settings.scopeStatus rule policy with
        status := some (settings.meshRules (settings.scopeStatus rule policy)) } := by
    rw [← status_meshStatus]
    rfl
  rw [hmesh, meshRules_meshRules]

/-! ### What a namespace inherits -/

/-- A namespace keeps a status of its own that leaves nothing to inherit. -/
theorem overallStatus_of_isDefined {ns : ScopeStatus} {status : MtlsStatus}
    (h : ns.status = some status) (defined : status.isDefined = true) (mesh : ScopeStatus) :
    settings.overallStatus ns mesh = status := by
  rw [overallStatus]
  cases status with
  | enabled => simp [h]
  | disabled => simp [h]
  | partiallyEnabled => cases defined
  | notEnabled => cases defined

/-- A namespace that is partly configured is looked at as a mesh with its gaps filled. -/
theorem overallStatus_of_partiallyEnabled {ns : ScopeStatus}
    (h : ns.status = some .partiallyEnabled) (mesh : ScopeStatus) :
    settings.overallStatus ns mesh =
      settings.meshRules
        (settings.scopeStatus (ns.rule.orElse mesh.rule) (ns.policy.orElse mesh.policy)) := by
  rw [overallStatus]
  simp only [h, reduceCtorEq, Option.some.injEq, if_false, if_true]
  rw [overallStatus]
  rfl

/-- A namespace where nothing is configured gets what the rules for a mesh make of the mesh. -/
theorem overallStatus_of_notEnabled {ns : ScopeStatus} (h : ns.status = some .notEnabled)
    (mesh : ScopeStatus) : settings.overallStatus ns mesh = settings.meshRules mesh := by
  rw [overallStatus]
  simp only [h, reduceCtorEq, Option.some.injEq, if_false]
  rfl

/-- Nothing is configured where no mode is set. -/
theorem tableStatus_eq_notEnabled_iff {rule policy : MtlsMode} :
    settings.tableStatus rule policy = .notEnabled ↔ rule = .unset ∧ policy = .unset := by
  unfold tableStatus
  constructor
  · intro h
    grind [MtlsMode.isSet]
  · intro h
    obtain ⟨rfl, rfl⟩ := h
    rfl

/-- Two modes of a namespace and two of the mesh lead to the table status of the namespace where it
leaves nothing to inherit, and else to the status of a mesh with the effective modes. -/
theorem overallStatus_scopeStatus (rule policy meshRule meshPolicy : MtlsMode) :
    some (settings.overallStatus (settings.scopeStatus rule policy)
        (settings.meshStatus meshRule meshPolicy)) =
      if (settings.tableStatus rule policy).isDefined then some (settings.tableStatus rule policy)
      else (settings.meshStatus (rule.orElse meshRule) (policy.orElse meshPolicy)).status := by
  have hstatus : (settings.scopeStatus rule policy).status =
      some (settings.tableStatus rule policy) := rfl
  rw [status_meshStatus]
  cases htable : settings.tableStatus rule policy with
  | enabled =>
    rw [settings.overallStatus_of_isDefined (hstatus.trans (congrArg some htable)) rfl]
    rfl
  | disabled =>
    rw [settings.overallStatus_of_isDefined (hstatus.trans (congrArg some htable)) rfl]
    rfl
  | partiallyEnabled =>
    rw [settings.overallStatus_of_partiallyEnabled (hstatus.trans (congrArg some htable))]
    rfl
  | notEnabled =>
    rw [settings.overallStatus_of_notEnabled (hstatus.trans (congrArg some htable)),
      meshRules_meshStatus]
    obtain ⟨rfl, rfl⟩ := settings.tableStatus_eq_notEnabled_iff.1 htable
    rfl

/-- The overall status of a namespace by the modes that it and the mesh are found to have. -/
theorem some_overallMtls (snapshot : Snapshot) (ns : String) :
    let own := settings.namespaceMtls snapshot ns
    let mesh := settings.meshMtls snapshot
    some (settings.overallMtls snapshot ns) =
      if (settings.tableStatus own.rule own.policy).isDefined then
        some (settings.tableStatus own.rule own.policy)
      else
        (settings.meshStatus (own.rule.orElse mesh.rule) (own.policy.orElse mesh.policy)).status :=
  settings.overallStatus_scopeStatus _ _ _ _

end MeshSettings

/-! ### A policy and a rule as they are mostly written -/

/-- A policy that sets a mode for its whole namespace. -/
def namespacePolicy (name ns mode : String) : MeshObject :=
  { kind := .peerAuthentication, name, ns
    spec := .object [("mtls", .object [("mode", .string mode)])] }

/-- A rule that sets a mode for a host. -/
def hostRule (name ns host mode : String) : MeshObject :=
  { kind := .destinationRule, name, ns
    spec := .object [("host", .string host),
      ("trafficPolicy", .object [("tls", .object [("mode", .string mode)])])] }

/-! ### The law of inheritance -/

/-- A namespace that settles its own mTLS has its own status, and every other one has the status of
a mesh with its effective modes. So one without modes has the status of the mesh, and one with both
has its own whatever the mesh has. -/
theorem overallMtls_inherits (settings : MeshSettings) (snapshot : Snapshot) (ns : String) :
    let rule := MtlsMode.firstSet
      (snapshot.destinationRules.map (destinationRuleMode (settings.namespaceWideHost ns)))
    let policy := MtlsMode.firstSet ((snapshot.policiesOf ns).map peerAuthenticationMode)
    let meshRule := MtlsMode.firstSet
      (snapshot.destinationRules.map (destinationRuleMode meshWideHost))
    let meshPolicy := MtlsMode.firstSet
      ((snapshot.policiesOf settings.rootNamespace).map peerAuthenticationMode)
    let own := settings.tableStatus rule policy
    (some (settings.overallMtls snapshot ns) =
      if own.isDefined then some own
      else (settings.meshStatus (rule.orElse meshRule) (policy.orElse meshPolicy)).status) ∧
    (rule = .unset ∧ policy = .unset →
      some (settings.overallMtls snapshot ns) = (settings.meshMtls snapshot).status) ∧
    (rule ≠ .unset ∧ policy ≠ .unset → ∀ other : Snapshot,
      settings.namespaceMtls other ns = settings.namespaceMtls snapshot ns →
        settings.overallMtls other ns = settings.overallMtls snapshot ns) := by
  intro rule policy meshRule meshPolicy own
  have hlaw := settings.some_overallMtls snapshot ns
  refine ⟨hlaw, fun h => ?_, fun h other hown => ?_⟩
  · obtain ⟨hrule, hpolicy⟩ := h
    have hown : settings.namespaceMtls snapshot ns = settings.scopeStatus .unset .unset := by
      change settings.scopeStatus rule policy = _
      rw [hrule, hpolicy]
    simp only [hown] at hlaw
    exact hlaw
  · obtain ⟨hrule, hpolicy⟩ := h
    have hrule' : (settings.namespaceMtls snapshot ns).rule ≠ .unset := hrule
    have hpolicy' : (settings.namespaceMtls snapshot ns).policy ≠ .unset := hpolicy
    have hother := settings.some_overallMtls other ns
    simp only [hown, MtlsMode.orElse_of_ne_unset hrule', MtlsMode.orElse_of_ne_unset hpolicy']
      at hlaw hother
    exact Option.some.inj (hother.trans hlaw.symm)

/-- In a strict mesh, a namespace that sets both modes stays partly enabled, as it does without the
mesh, and one that sets none has the status of the mesh. -/
theorem overallMtls_inherits_strict_mesh :
    let own := [namespacePolicy "own" "bookinfo" "PERMISSIVE",
      hostRule "own" "bookinfo" "*.bookinfo.svc.cluster.local" "ISTIO_MUTUAL"]
    let mesh := [namespacePolicy "mesh" "istio-system" "STRICT",
      hostRule "mesh" "istio-system" "*.local" "ISTIO_MUTUAL"]
    (MeshSettings.overallMtls {} (.ofObjects own) "bookinfo" = .partiallyEnabled ∧
      MeshSettings.overallMtls {} (.ofObjects (own ++ mesh)) "bookinfo" = .partiallyEnabled) ∧
    (MeshSettings.meshMtls {} (.ofObjects (own ++ mesh))).status = some .enabled ∧
      MeshSettings.overallMtls {} (.ofObjects (own ++ mesh)) "default" = .enabled := by
  intro own mesh
  have hpartly : (MeshSettings.namespaceMtls {} (.ofObjects own) "bookinfo").status =
      some .partiallyEnabled := by decide
  have halone : MeshSettings.overallMtls {} (.ofObjects own) "bookinfo" = .partiallyEnabled :=
    (MeshSettings.overallStatus_of_partiallyEnabled {} hpartly _).trans (by decide)
  have hmesh : (MeshSettings.meshMtls {} (.ofObjects (own ++ mesh))).status = some .enabled :=
    (MeshSettings.status_meshStatus {} _ _).trans (by decide)
  obtain ⟨-, -, hfree⟩ := overallMtls_inherits {} (.ofObjects own) "bookinfo"
  obtain ⟨-, hnone, -⟩ := overallMtls_inherits {} (.ofObjects (own ++ mesh)) "default"
  have hbeside := hfree (by decide) (.ofObjects (own ++ mesh)) (by decide)
  have hinherited := (hnone (by decide)).trans hmesh
  exact ⟨⟨halone, hbeside.trans halone⟩, hmesh, Option.some.inj hinherited⟩

end MeshAudit

import MeshAudit.Proofs.Analysis.Isolation

/-!
# Peer authentications in an analysis

A peer authentication that switches mTLS off fails when some destination rule still requires it,
for its namespace or for the whole mesh and wherever the rule lives. Those of the root namespace are
not checked. The analysis has one error for every one that fails. So a namespace whose status shows
the two modes side by side has an invalid peer authentication.
-/

namespace MeshAudit

/-- A destination rule requires mTLS for all services of a namespace or of the mesh. -/
def RequiresMtls (settings : MeshSettings) (ns : String) (rule : MeshObject) : Prop :=
  AddressesAll settings ns rule ∧
    (rule.bodyText? ["trafficPolicy", "tls", "mode"] = some "MUTUAL" ∨
      rule.bodyText? ["trafficPolicy", "tls", "mode"] = some "ISTIO_MUTUAL")

instance (settings : MeshSettings) (ns : String) : DecidablePred (RequiresMtls settings ns) :=
  fun _ => inferInstanceAs (Decidable (_ ∧ _))

/-- How a peer authentication of a snapshot fails. -/
structure PolicyFails (settings : MeshSettings) (snapshot : Snapshot) (policy : MeshObject) :
    Prop where
  /-- It is not for the whole mesh. -/
  outside : policy.ns ≠ settings.rootNamespace
  /-- It switches mTLS off. -/
  off : peerAuthenticationMode policy = .disable
  /-- Some rule requires mTLS all the same. -/
  opposed : ∃ rule ∈ snapshot.destinationRules, RequiresMtls settings policy.ns rule

instance (settings : MeshSettings) (snapshot : Snapshot) :
    DecidablePred (PolicyFails settings snapshot) := fun policy =>
  decidable_of_iff
    (policy.ns ≠ settings.rootNamespace ∧ peerAuthenticationMode policy = .disable ∧
      ∃ rule ∈ snapshot.destinationRules, RequiresMtls settings policy.ns rule)
    ⟨fun h => ⟨h.1, h.2.1, h.2.2⟩, fun h => ⟨h.outside, h.off, h.opposed⟩⟩

/-- The error of a peer authentication that fails. -/
abbrev disabledPolicyFinding : Finding := ⟨.disableRuleMissing, "spec/mtls", .error⟩

variable {settings : MeshSettings} {snapshot : Snapshot}

/-- A rule requires mTLS for a namespace when its mode for the namespace or its mode for the mesh
does. -/
theorem requiresMtls_iff {ns : String} {rule : MeshObject} :
    RequiresMtls settings ns rule ↔
      (namespaceWideMode settings ns rule).requiresMutual = true ∨
        (meshWideMode rule).requiresMutual = true := by
  rw [namespaceWideMode, meshWideMode, requiresMutual_destinationRuleMode,
    requiresMutual_destinationRuleMode, RequiresMtls, AddressesAll, or_and_right]

/-- A peer authentication outside the root namespace does not pass its check exactly when it
fails. -/
theorem toList_disabledPolicyCheck? {policy : MeshObject}
    (h : policy.ns ≠ settings.rootNamespace) :
    ((disabledPolicyCheck? settings snapshot.destinationRules policy).toList.map fun check =>
        check.at policyModePath) =
      if PolicyFails settings snapshot policy then [disabledPolicyFinding] else [] := by
  have hfails : PolicyFails settings snapshot policy ↔
      (peerAuthenticationMode policy = .disable &&
        snapshot.destinationRules.any fun rule =>
          (namespaceWideMode settings policy.ns rule).requiresMutual ||
            (meshWideMode rule).requiresMutual) = true := by
    simp only [Bool.and_eq_true, decide_eq_true_eq, List.any_eq_true, Bool.or_eq_true,
      ← requiresMtls_iff]
    constructor
    · intro hfails
      exact ⟨hfails.off, hfails.opposed⟩
    · rintro ⟨hoff, hopposed⟩
      exact ⟨h, hoff, hopposed⟩
  unfold disabledPolicyCheck?
  simp only [← hfails]
  split <;> rfl

/-- One and the same item for every member of a list that passes a test. -/
theorem flatMap_ite_eq_replicate {α β : Type} (p : α → Prop) [DecidablePred p] (item : β)
    (xs : List α) :
    (xs.flatMap fun x => if p x then [item] else []) =
      List.replicate (xs.countP fun x => p x) item := by
  induction xs with
  | nil => rfl
  | cons x rest ih =>
    by_cases hx : p x
    · simp [hx, ih, List.replicate_succ]
    · simp [hx, ih]

namespace MeshSettings

variable (settings : MeshSettings) (objects : List MeshObject) (ns name : String)

/-- The findings about a peer authentication are one error for every one with its key that fails. -/
theorem findings_analyze_peerAuthentication :
    (settings.analyze (.ofObjects objects)).findings ⟨.peerAuthentication, ns, name⟩ =
      List.replicate
        ((Snapshot.ofObjects objects).peerAuthentications.countP fun policy =>
          ObjectKey.ofObject policy = ⟨.peerAuthentication, ns, name⟩ ∧
            PolicyFails settings (.ofObjects objects) policy)
        disabledPolicyFinding := by
  have hkind : (settings.analyze (.ofObjects objects)).findings ⟨.peerAuthentication, ns, name⟩ =
      (settings.peerAuthenticationFindings (.ofObjects objects)).findings
        ⟨.peerAuthentication, ns, name⟩ := settings.findings_analyze objects _
  rw [hkind, findings_peerAuthenticationFindings, flatMap_filter, flatMap_filter,
    ← flatMap_ite_eq_replicate]
  refine List.flatMap_congr fun policy _ => ?_
  by_cases hroot : policy.ns = settings.rootNamespace
  · have hpass : ¬ PolicyFails settings (.ofObjects objects) policy := fun h => h.outside hroot
    simp [hroot, hpass]
  · rw [toList_disabledPolicyCheck? hroot]
    by_cases hkey : ObjectKey.ofObject policy = ⟨.peerAuthentication, ns, name⟩ <;>
      simp [hroot, hkey]

/-- A peer authentication is listed when one with its key fails. -/
theorem contains_analyze_peerAuthentication :
    (settings.analyze (.ofObjects objects)).contains ⟨.peerAuthentication, ns, name⟩ = true ↔
      ∃ policy ∈ (Snapshot.ofObjects objects).peerAuthentications,
        ObjectKey.ofObject policy = ⟨.peerAuthentication, ns, name⟩ ∧
          PolicyFails settings (.ofObjects objects) policy := by
  have hfull := settings.hasFindings_analyze (.ofObjects objects)
  rw [hfull.contains_iff, findings_analyze_peerAuthentication, ne_eq, List.replicate_eq_nil_iff,
    ← ne_eq, ← Nat.pos_iff_ne_zero, List.countP_pos_iff]
  simp only [decide_eq_true_eq]

/-- A peer authentication is invalid exactly when it is listed. -/
theorem isValid_analyze_peerAuthentication :
    (settings.analyze (.ofObjects objects)).isValid ⟨.peerAuthentication, ns, name⟩ =
      !(settings.analyze (.ofObjects objects)).contains ⟨.peerAuthentication, ns, name⟩ := by
  have hsound := settings.sound_analyze (.ofObjects objects)
  have herror : ∀ finding ∈ (settings.analyze (.ofObjects objects)).findings
      ⟨.peerAuthentication, ns, name⟩, finding.severity = .error := by
    intro finding h
    rw [findings_analyze_peerAuthentication] at h
    rw [List.eq_of_mem_replicate h]
  rw [← Bool.not_inj_iff, Bool.not_not, Bool.eq_iff_iff, Bool.not_eq_true',
    hsound.isValid_eq_false_iff, hsound.full.contains_iff]
  constructor
  · rintro ⟨finding, hmem, -⟩
    exact List.ne_nil_of_mem hmem
  · intro hne
    obtain ⟨finding, hmem⟩ := List.exists_mem_of_ne_nil _ hne
    exact ⟨finding, hmem, herror finding hmem⟩

end MeshSettings

/-- The first mode that is set is that of one of the objects. -/
theorem MtlsMode.exists_of_firstSet_map {read : MeshObject → MtlsMode} {objects : List MeshObject}
    {mode : MtlsMode} (h : MtlsMode.firstSet (objects.map read) = mode) (set : mode ≠ .unset) :
    ∃ object ∈ objects, read object = mode := by
  obtain ⟨before, object, after, hsplit, hread, -⟩ := (MtlsMode.firstSet_map_eq_iff set).1 h
  exact ⟨object, by simp [hsplit], hread⟩

/-- A mode that requires mTLS is set. -/
theorem MtlsMode.ne_unset_of_requiresMutual {mode : MtlsMode} (h : mode.requiresMutual = true) :
    mode ≠ .unset := by
  rintro rfl
  exact absurd h (by decide)

/-- Where the status of a namespace or of the mesh shows a rule that requires mTLS, some rule requires
it for the namespace. -/
theorem exists_requiresMtls {ns : String}
    (required : (settings.namespaceMtls snapshot ns).rule.requiresMutual = true ∨
      (settings.meshMtls snapshot).rule.requiresMutual = true) :
    ∃ rule ∈ snapshot.destinationRules, RequiresMtls settings ns rule := by
  rcases required with h | h
  · obtain ⟨rule, hmem, hmode⟩ :=
      MtlsMode.exists_of_firstSet_map rfl (MtlsMode.ne_unset_of_requiresMutual h)
    exact ⟨rule, hmem, requiresMtls_iff.2 (.inl (hmode ▸ h))⟩
  · obtain ⟨rule, hmem, hmode⟩ :=
      MtlsMode.exists_of_firstSet_map rfl (MtlsMode.ne_unset_of_requiresMutual h)
    exact ⟨rule, hmem, requiresMtls_iff.2 (.inr (hmode ▸ h))⟩

/-- Where the status of a namespace shows that mTLS is switched off, some policy of the namespace
switches it off. -/
theorem exists_disable_of_namespaceMtls {ns : String}
    (off : (settings.namespaceMtls snapshot ns).policy = .disable) :
    ∃ policy ∈ snapshot.peerAuthentications, policy.ns = ns ∧
      peerAuthenticationMode policy = .disable := by
  obtain ⟨policy, hmem, hmode⟩ := MtlsMode.exists_of_firstSet_map off (by decide)
  have hpolicy := List.mem_filter.1 hmem
  exact ⟨policy, hpolicy.1, by simpa using hpolicy.2, hmode⟩

/-- The analysis has one error for every peer authentication that fails, and nothing else. So a
namespace other than the root has an invalid one when by its policies mTLS is off there, against a
rule for it or for the mesh that requires mTLS. -/
theorem analyze_peerAuthentications (settings : MeshSettings) (objects : List MeshObject) :
    let snapshot := Snapshot.ofObjects objects
    let graph := settings.analyze snapshot
    (∀ ns name, let key : ObjectKey := ⟨.peerAuthentication, ns, name⟩
      graph.findings key =
          List.replicate
            (snapshot.peerAuthentications.countP fun policy =>
              ObjectKey.ofObject policy = key ∧ PolicyFails settings snapshot policy)
            ⟨.disableRuleMissing, "spec/mtls", .error⟩ ∧
        (graph.contains key = true ↔
          ∃ policy ∈ snapshot.peerAuthentications, ObjectKey.ofObject policy = key ∧
            PolicyFails settings snapshot policy) ∧
        graph.isValid key = !graph.contains key) ∧
    ∀ ns, ns ≠ settings.rootNamespace →
      (settings.namespaceMtls snapshot ns).policy = .disable →
      ((settings.namespaceMtls snapshot ns).rule.requiresMutual = true ∨
        (settings.meshMtls snapshot).rule.requiresMutual = true) →
      ∃ entry ∈ graph.entries, entry.key.kind = .peerAuthentication ∧ entry.key.ns = ns ∧
        entry.valid = false := by
  intro snapshot graph
  refine ⟨fun ns name => ⟨settings.findings_analyze_peerAuthentication objects ns name,
    settings.contains_analyze_peerAuthentication objects ns name,
    settings.isValid_analyze_peerAuthentication objects ns name⟩, fun ns hroot hoff hrequired => ?_⟩
  obtain ⟨policy, hmem, rfl, hmode⟩ := exists_disable_of_namespaceMtls hoff
  have hfails : PolicyFails settings snapshot policy := ⟨hroot, hmode, exists_requiresMtls hrequired⟩
  have hkind : policy.kind = .peerAuthentication :=
    (@Snapshot.mem_ofKind_ofObjects objects .peerAuthentication policy).1 hmem |>.2
  have hkey : ObjectKey.ofObject policy = ⟨.peerAuthentication, policy.ns, policy.name⟩ := by
    rw [ObjectKey.ofObject, hkind]
  have hcontains := (settings.contains_analyze_peerAuthentication objects policy.ns policy.name).2
    ⟨policy, hmem, hkey, hfails⟩
  have hinvalid := settings.isValid_analyze_peerAuthentication objects policy.ns policy.name
  obtain ⟨entry, hentry⟩ := Option.isSome_iff_exists.1 hcontains
  obtain ⟨hentryMem, hentryKey⟩ := Graph.get?_eq_some_iff.1 hentry
  refine ⟨entry, hentryMem, congrArg ObjectKey.kind hentryKey, congrArg ObjectKey.ns hentryKey, ?_⟩
  rw [hcontains, Graph.isValid, hentry] at hinvalid
  exact hinvalid

/-- Two policies of one key switch mTLS off and a rule that lives elsewhere requires it for the mesh.
There are two errors then, though the status of the namespace itself shows no rule. -/
theorem analyze_peerAuthentications_mesh_rule :
    let objects := [namespacePolicy "off" "bookinfo" "DISABLE",
      namespacePolicy "off" "bookinfo" "DISABLE", hostRule "mesh" "default" "*.local" "ISTIO_MUTUAL",
      namespacePolicy "off" "istio-system" "DISABLE"]
    let snapshot := Snapshot.ofObjects objects
    let graph := MeshSettings.analyze {} snapshot
    (MeshSettings.namespaceMtls {} snapshot "bookinfo").rule = .unset ∧
      (graph.findings ⟨.peerAuthentication, "bookinfo", "off"⟩).length = 2 ∧
      graph.contains ⟨.peerAuthentication, "istio-system", "off"⟩ = false ∧
      ∃ entry ∈ graph.entries, entry.key.kind = .peerAuthentication ∧
        entry.key.ns = "bookinfo" ∧ entry.valid = false := by
  intro objects snapshot graph
  obtain ⟨-, hstatus⟩ := analyze_peerAuthentications {} objects
  exact ⟨by decide, by decide, by decide,
    hstatus "bookinfo" (by decide) (by decide) (.inr (by decide))⟩

end MeshAudit

import MeshAudit.Analysis
import MeshAudit.Proofs.Graph.Contents

/-!
# When a destination rule fails its mTLS checks

Two checks look at every destination rule. This module says in terms of the rule's host and mode
and of the policies around it when a rule fails, shows that no rule fails both checks, and gives
the findings of all rules by it.
-/

namespace MeshAudit

/-! ### Modes -/

/-- The words of the modes that require mTLS. -/
theorem MtlsMode.requiresMutual_ofWord {word : String} :
    (MtlsMode.ofWord word).requiresMutual = true ↔ word = "MUTUAL" ∨ word = "ISTIO_MUTUAL" := by
  constructor
  · intro h
    have hword := MtlsMode.word_ofWord word
    cases hm : MtlsMode.ofWord word with
    | mutualTls => exact .inl (by rw [← hword, hm]; rfl)
    | istioMutual => exact .inr (by rw [← hword, hm]; rfl)
    | unset => simp [hm, MtlsMode.requiresMutual] at h
    | disable => simp [hm, MtlsMode.requiresMutual] at h
    | permissive => simp [hm, MtlsMode.requiresMutual] at h
    | strict => simp [hm, MtlsMode.requiresMutual] at h
    | other w => simp [hm, MtlsMode.requiresMutual] at h
  · intro h
    rcases h with rfl | rfl
    · rfl
    · rfl

/-- A mode that is read from its word is read from no other one. -/
theorem MtlsMode.ofWord_eq_iff {mode : MtlsMode} (read : MtlsMode.ofWord mode.word = mode)
    {word : String} : MtlsMode.ofWord word = mode ↔ word = mode.word := by
  constructor
  · intro h
    rw [← MtlsMode.word_ofWord word, h]
  · rintro rfl
    exact read

/-- The word of the mode that switches mTLS off. -/
theorem MtlsMode.ofWord_eq_disable {word : String} :
    MtlsMode.ofWord word = .disable ↔ word = "DISABLE" := MtlsMode.ofWord_eq_iff rfl

/-- Only the empty word sets no mode. -/
theorem MtlsMode.ofWord_eq_unset {word : String} :
    MtlsMode.ofWord word = .unset ↔ word = "" := MtlsMode.ofWord_eq_iff rfl

/-- There is no first mode that is set exactly when none is. -/
theorem MtlsMode.firstSet_eq_unset_iff {modes : List MtlsMode} :
    MtlsMode.firstSet modes = .unset ↔ ∀ mode ∈ modes, mode.isSet = false := by
  unfold MtlsMode.firstSet
  cases hf : modes.find? MtlsMode.isSet with
  | none => simpa using List.find?_eq_none.1 hf
  | some mode =>
    have hset : mode.isSet = true := List.find?_some hf
    have hmem : mode ∈ modes := List.mem_of_find?_eq_some hf
    constructor
    · intro h
      have h : mode = .unset := h
      simp [h, MtlsMode.isSet] at hset
    · intro h
      exact absurd (h mode hmem) (by simp [hset])

/-- A mode that is set is the first one of a list of objects exactly when some object has it and no
object before sets any. -/
theorem MtlsMode.firstSet_map_eq_iff {read : MeshObject → MtlsMode} {objects : List MeshObject}
    {mode : MtlsMode} (set : mode ≠ .unset) :
    MtlsMode.firstSet (objects.map read) = mode ↔
      ∃ before first after, objects = before ++ first :: after ∧ read first = mode ∧
        ∀ earlier ∈ before, read earlier = .unset := by
  have hfind : MtlsMode.firstSet (objects.map read) = mode ↔
      (objects.map read).find? MtlsMode.isSet = some mode := by
    unfold MtlsMode.firstSet
    cases (objects.map read).find? MtlsMode.isSet with
    | none => simpa using set.symm
    | some found => simp
  rw [hfind, List.find?_map, Option.map_eq_some_iff]
  constructor
  · intro h
    obtain ⟨first, hfirst, rfl⟩ := h
    obtain ⟨-, before, after, hsplit, hbefore⟩ := List.find?_eq_some_iff_append.1 hfirst
    refine ⟨before, first, after, hsplit, rfl, fun earlier hmem => ?_⟩
    simpa [MtlsMode.isSet] using hbefore earlier hmem
  · intro h
    obtain ⟨before, first, after, hsplit, rfl, hbefore⟩ := h
    have hset : (read first).isSet = true := by simpa [MtlsMode.isSet] using set
    refine ⟨first, List.find?_eq_some_iff_append.2 ⟨hset, before, after, hsplit, ?_⟩, rfl⟩
    intro earlier hmem
    simp [MtlsMode.isSet, hbefore earlier hmem]

/-- A rule switches mTLS off for a namespace when it names the host of the namespace and the word
for it. -/
theorem namespaceWideMode_eq_disable {settings : MeshSettings} {ns : String} {rule : MeshObject} :
    namespaceWideMode settings ns rule = .disable ↔
      rule.bodyText? ["host"] = some (settings.namespaceWideHost ns) ∧
        rule.bodyText? ["trafficPolicy", "tls", "mode"] = some "DISABLE" := by
  unfold namespaceWideMode destinationRuleMode
  by_cases hhost : rule.bodyText? ["host"] = some (settings.namespaceWideHost ns)
  · cases hmode : rule.bodyText? ["trafficPolicy", "tls", "mode"] with
    | none => simp [hhost]
    | some word => simp [hhost, MtlsMode.ofWord_eq_disable]
  · simp [hhost]

/-- A rule requires mTLS for a host when it names the host and one of the two words for it. -/
theorem requiresMutual_destinationRuleMode {host : String} {rule : MeshObject} :
    (destinationRuleMode host rule).requiresMutual = true ↔
      rule.bodyText? ["host"] = some host ∧
        (rule.bodyText? ["trafficPolicy", "tls", "mode"] = some "MUTUAL" ∨
          rule.bodyText? ["trafficPolicy", "tls", "mode"] = some "ISTIO_MUTUAL") := by
  unfold destinationRuleMode
  by_cases hhost : rule.bodyText? ["host"] = some host
  · cases hmode : rule.bodyText? ["trafficPolicy", "tls", "mode"] with
    | none => simp [hhost, MtlsMode.requiresMutual]
    | some word => simp [hhost, MtlsMode.requiresMutual_ofWord]
  · simp [hhost, MtlsMode.requiresMutual]

/-! ### Failing rules -/

/-- A policy lets mTLS in when its mode is strict or permissive. -/
def LetsMtlsIn (policy : MeshObject) : Prop :=
  peerAuthenticationMode policy = .strict ∨ peerAuthenticationMode policy = .permissive

/-- The first policy of a list that lets mTLS in is strict. -/
def StrictFirst (policies : List MeshObject) : Prop :=
  ∃ before policy after, policies = before ++ policy :: after ∧
    peerAuthenticationMode policy = .strict ∧ ∀ earlier ∈ before, ¬ LetsMtlsIn earlier

/-- How a destination rule of a snapshot fails. -/
inductive RuleFails (settings : MeshSettings) (snapshot : Snapshot) (rule : MeshObject) :
    Check → Prop where
  /-- The rule switches mTLS off, and the first policy of its namespace that lets mTLS in is
  strict. -/
  | namespaceStrict :
      rule.bodyText? ["host"] = some (settings.namespaceWideHost rule.ns) →
      rule.bodyText? ["trafficPolicy", "tls", "mode"] = some "DISABLE" →
      StrictFirst (snapshot.peerAuthentications.filter fun policy => policy.ns = rule.ns) →
      RuleFails settings snapshot rule .policyMtlsEnabled
  /-- The rule switches mTLS off, no policy of its namespace lets mTLS in, and one of the root
  namespace is strict. -/
  | meshStrict {policy : MeshObject} :
      rule.bodyText? ["host"] = some (settings.namespaceWideHost rule.ns) →
      rule.bodyText? ["trafficPolicy", "tls", "mode"] = some "DISABLE" →
      (∀ own ∈ snapshot.peerAuthentications, own.ns = rule.ns → ¬ LetsMtlsIn own) →
      policy ∈ snapshot.peerAuthentications → policy.ns = settings.rootNamespace →
      peerAuthenticationMode policy = .strict →
      RuleFails settings snapshot rule .meshPolicyMtlsEnabled
  /-- The rule requires mTLS, and neither its namespace nor the mesh has a mode by its policies. -/
  | unbacked :
      rule.bodyText? ["host"] = some (settings.namespaceWideHost rule.ns) →
      (rule.bodyText? ["trafficPolicy", "tls", "mode"] = some "MUTUAL" ∨
        rule.bodyText? ["trafficPolicy", "tls", "mode"] = some "ISTIO_MUTUAL") →
      (snapshot.policies settings rule.ns).ownPolicyMode = .unset →
      (snapshot.policies settings rule.ns).meshPolicyMode = .unset →
      RuleFails settings snapshot rule .namespacePolicyMissing

/-- A failing destination rule is an error. -/
theorem RuleFails.severity_eq {settings : MeshSettings} {snapshot : Snapshot} {rule : MeshObject}
    {check : Check} (h : RuleFails settings snapshot rule check) : check.severity = .error := by
  cases h <;> rfl

/-- A failing destination rule names the host of its own namespace. -/
theorem RuleFails.host_eq {settings : MeshSettings} {snapshot : Snapshot} {rule : MeshObject}
    {check : Check} (h : RuleFails settings snapshot rule check) :
    rule.bodyText? ["host"] = some (settings.namespaceWideHost rule.ns) := by
  cases h with
  | namespaceStrict hhost _ _ => exact hhost
  | meshStrict hhost _ _ _ _ _ => exact hhost
  | unbacked hhost _ _ _ => exact hhost

/-- A rule contradicts the policies of its namespace when it switches mTLS off against a strict
one. -/
theorem ruleFails_policyMtlsEnabled_iff {settings : MeshSettings} {snapshot : Snapshot}
    {rule : MeshObject} :
    RuleFails settings snapshot rule .policyMtlsEnabled ↔
      namespaceWideMode settings rule.ns rule = .disable ∧
        StrictFirst (snapshot.policiesOf rule.ns) := by
  rw [namespaceWideMode_eq_disable]
  constructor
  · intro h
    cases h with
    | namespaceStrict hhost hmode hfirst => exact ⟨⟨hhost, hmode⟩, hfirst⟩
  · intro h
    obtain ⟨⟨hhost, hmode⟩, hfirst⟩ := h
    exact .namespaceStrict hhost hmode hfirst

/-- A rule contradicts the policies of the mesh when it switches mTLS off, its namespace leaves the
matter to the mesh, and the mesh is strict. -/
theorem ruleFails_meshPolicyMtlsEnabled_iff {settings : MeshSettings} {snapshot : Snapshot}
    {rule : MeshObject} :
    RuleFails settings snapshot rule .meshPolicyMtlsEnabled ↔
      namespaceWideMode settings rule.ns rule = .disable ∧
        (∀ own ∈ snapshot.policiesOf rule.ns, ¬ LetsMtlsIn own) ∧
          ∃ policy ∈ snapshot.policiesOf settings.rootNamespace,
            peerAuthenticationMode policy = .strict := by
  simp only [namespaceWideMode_eq_disable, Snapshot.mem_policiesOf]
  constructor
  · intro h
    cases h with
    | meshStrict hhost hmode hnone hmem hroot hstrict =>
      exact ⟨⟨hhost, hmode⟩, fun own hown => hnone own hown.1 hown.2, _, ⟨hmem, hroot⟩, hstrict⟩
  · intro h
    obtain ⟨⟨hhost, hmode⟩, hnone, policy, ⟨hmem, hroot⟩, hstrict⟩ := h
    exact .meshStrict hhost hmode (fun own hown hns => hnone own ⟨hown, hns⟩) hmem hroot hstrict

/-- The scan for the first policy that lets mTLS in ends at a strict one exactly when that comes
first. -/
theorem find?_eq_strict_iff {policies : List MeshObject} :
    (policies.map peerAuthenticationMode).find? (fun mode => mode = .strict || mode = .permissive) =
        some .strict ↔ StrictFirst policies := by
  rw [List.find?_map, Option.map_eq_some_iff]
  constructor
  · intro h
    obtain ⟨policy, hfind, hstrict⟩ := h
    obtain ⟨-, before, after, hsplit, hbefore⟩ := List.find?_eq_some_iff_append.1 hfind
    refine ⟨before, policy, after, hsplit, hstrict, fun earlier hmem => ?_⟩
    simpa [LetsMtlsIn] using hbefore earlier hmem
  · intro h
    obtain ⟨before, policy, after, hsplit, hstrict, hbefore⟩ := h
    refine ⟨policy, List.find?_eq_some_iff_append.2 ⟨by simp [hstrict], before, after, hsplit, ?_⟩,
      hstrict⟩
    intro earlier hmem
    simpa [LetsMtlsIn] using hbefore earlier hmem

/-- The scan ends at nothing exactly when no policy lets mTLS in. -/
theorem find?_eq_none_iff {policies : List MeshObject} :
    (policies.map peerAuthenticationMode).find? (fun mode => mode = .strict || mode = .permissive) =
        none ↔ ∀ policy ∈ policies, ¬ LetsMtlsIn policy := by
  rw [List.find?_eq_none]
  simp [LetsMtlsIn]

/-- Policies that do not let mTLS in do not change which one is the first to do so. -/
theorem strictFirst_append {before after : List MeshObject}
    (h : ∀ earlier ∈ before, ¬ LetsMtlsIn earlier) :
    StrictFirst (before ++ after) ↔ StrictFirst after := by
  rw [← find?_eq_strict_iff, ← find?_eq_strict_iff, List.map_append, List.find?_append,
    find?_eq_none_iff.2 h, Option.none_or]

variable {settings : MeshSettings} {snapshot : Snapshot} {rule : MeshObject}

/-- The check of rules that switch mTLS off fails in the two ways that such rules have. -/
theorem disabledRuleCheck?_eq_some_iff {check : Check} :
    disabledRuleCheck? settings (snapshot.policies settings rule.ns) rule = some check ↔
      check ≠ .namespacePolicyMissing ∧ RuleFails settings snapshot rule check := by
  constructor
  · intro h
    unfold disabledRuleCheck? at h
    split at h
    · next hoff =>
      split at h
      · next hfind =>
        cases h
        have hfirst := find?_eq_strict_iff.1 hfind
        exact ⟨by decide, ruleFails_policyMtlsEnabled_iff.2 ⟨hoff, hfirst⟩⟩
      · cases h
      · next hfind =>
        split at h
        · next hany =>
          cases h
          obtain ⟨policy, hmem, hstrict⟩ := List.any_eq_true.1 hany
          have hstrict : peerAuthenticationMode policy = .strict := by simpa using hstrict
          have hnone := find?_eq_none_iff.1 hfind
          exact ⟨by decide,
            ruleFails_meshPolicyMtlsEnabled_iff.2 ⟨hoff, hnone, policy, hmem, hstrict⟩⟩
        · cases h
    · cases h
  · intro h
    obtain ⟨hne, hfails⟩ := h
    cases check with
    | policyMtlsEnabled =>
      obtain ⟨hoff, hfirst⟩ := ruleFails_policyMtlsEnabled_iff.1 hfails
      rw [disabledRuleCheck?, if_pos hoff]
      simp only [Snapshot.policies, find?_eq_strict_iff.2 hfirst]
    | meshPolicyMtlsEnabled =>
      obtain ⟨hoff, hnone, policy, hmem, hstrict⟩ := ruleFails_meshPolicyMtlsEnabled_iff.1 hfails
      have hany : (snapshot.policiesOf settings.rootNamespace).any
          (fun policy => peerAuthenticationMode policy = .strict) = true :=
        List.any_eq_true.2 ⟨policy, hmem, decide_eq_true hstrict⟩
      rw [disabledRuleCheck?, if_pos hoff]
      simp only [Snapshot.policies, find?_eq_none_iff.2 hnone, hany, if_true]
    | namespacePolicyMissing => exact absurd rfl hne
    | _ => cases hfails

/-- Neither the namespace nor the mesh has a mode by its policies exactly when no policy of either
sets one. -/
theorem any_isSet_eq_false_iff :
    ((snapshot.policies settings rule.ns).own ++ (snapshot.policies settings rule.ns).root).any
        (fun policy => (peerAuthenticationMode policy).isSet) = false ↔
      (snapshot.policies settings rule.ns).ownPolicyMode = .unset ∧
        (snapshot.policies settings rule.ns).meshPolicyMode = .unset := by
  simp only [Policies.ownPolicyMode, Policies.meshPolicyMode, MtlsMode.firstSet_eq_unset_iff,
    List.forall_mem_map, List.any_append, Bool.or_eq_false_iff, List.any_eq_false,
    Bool.not_eq_true]

/-- The check of rules that require mTLS fails in the one way that such rules have. -/
theorem requiredRuleCheck?_eq_some_iff {check : Check} :
    requiredRuleCheck? settings (snapshot.policies settings rule.ns) rule = some check ↔
      check = .namespacePolicyMissing ∧ RuleFails settings snapshot rule check := by
  constructor
  · intro h
    unfold requiredRuleCheck? at h
    split at h
    · next hcond =>
      cases h
      rw [Bool.and_eq_true, Bool.not_eq_true'] at hcond
      obtain ⟨hhost, hmode⟩ := requiresMutual_destinationRuleMode.1 hcond.1
      obtain ⟨hown, hmesh⟩ := any_isSet_eq_false_iff.1 hcond.2
      exact ⟨rfl, .unbacked hhost hmode hown hmesh⟩
    · cases h
  · intro h
    obtain ⟨rfl, hfails⟩ := h
    cases hfails with
    | unbacked hhost hmode hown hmesh =>
      have hmutual : (namespaceWideMode settings rule.ns rule).requiresMutual = true :=
        requiresMutual_destinationRuleMode.2 ⟨hhost, hmode⟩
      have hunset := any_isSet_eq_false_iff.2 ⟨hown, hmesh⟩
      rw [requiredRuleCheck?, hmutual, hunset]
      rfl

/-- The check that a rule of a snapshot fails, if it fails one. -/
def ruleFailure? (settings : MeshSettings) (snapshot : Snapshot) (rule : MeshObject) :
    Option Check :=
  (disabledRuleCheck? settings (snapshot.policies settings rule.ns) rule).or
    (requiredRuleCheck? settings (snapshot.policies settings rule.ns) rule)

/-- A rule that fails the check for rules that require mTLS passes the other one. -/
theorem disabledRuleCheck?_eq_none {check : Check}
    (h : requiredRuleCheck? settings (snapshot.policies settings rule.ns) rule = some check) :
    disabledRuleCheck? settings (snapshot.policies settings rule.ns) rule = none := by
  obtain ⟨rfl, hfails⟩ := requiredRuleCheck?_eq_some_iff.1 h
  cases hfails with
  | unbacked hhost hmode hown hmesh =>
    have hne : namespaceWideMode settings rule.ns rule ≠ .disable := by
      intro hoff
      have hoffMode := (namespaceWideMode_eq_disable.1 hoff).2
      rw [hoffMode] at hmode
      simp at hmode
    rw [disabledRuleCheck?, if_neg hne]

/-- The failing check of a rule is the one by which it fails. -/
theorem ruleFailure?_eq_some_iff {check : Check} :
    ruleFailure? settings snapshot rule = some check ↔ RuleFails settings snapshot rule check := by
  rw [ruleFailure?, Option.or_eq_some_iff]
  constructor
  · intro h
    rcases h with h | ⟨-, h⟩
    · exact (disabledRuleCheck?_eq_some_iff.1 h).2
    · exact (requiredRuleCheck?_eq_some_iff.1 h).2
  · intro hfails
    by_cases hmissing : check = .namespacePolicyMissing
    · have h := requiredRuleCheck?_eq_some_iff.2 ⟨hmissing, hfails⟩
      exact .inr ⟨disabledRuleCheck?_eq_none h, h⟩
    · exact .inl (disabledRuleCheck?_eq_some_iff.2 ⟨hmissing, hfails⟩)

/-- The two checks together fail at most once. -/
theorem toList_append_toList_eq :
    (disabledRuleCheck? settings (snapshot.policies settings rule.ns) rule).toList ++
        (requiredRuleCheck? settings (snapshot.policies settings rule.ns) rule).toList =
      (ruleFailure? settings snapshot rule).toList := by
  unfold ruleFailure?
  cases hrequired : requiredRuleCheck? settings (snapshot.policies settings rule.ns) rule with
  | none => simp
  | some check => simp [disabledRuleCheck?_eq_none hrequired]

end MeshAudit

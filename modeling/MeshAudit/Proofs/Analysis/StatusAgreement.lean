import MeshAudit.Proofs.Analysis.DestinationRules
import MeshAudit.Proofs.Mtls.Inheritance

/-!
# Where the checks and the status of a namespace agree

The status of a namespace goes by the first policy that sets a mode and by the rules for its host
wherever they live. The check of a rule that switches mTLS off goes by the first policy that lets
mTLS in and by the rule's own namespace. So a namespace with mTLS switched off is reported when a
strict policy comes later or applies to the whole mesh, and a rule that contradicts a strict
namespace from outside is passed over. This module says exactly when.
-/

namespace MeshAudit

/-- A failed check is reported about an object. -/
def Graph.Reports (graph : Graph) (key : ObjectKey) (check : Check) : Prop :=
  ∃ finding ∈ graph.findings key, finding.check = check

instance (graph : Graph) (key : ObjectKey) (check : Check) : Decidable (graph.Reports key check) :=
  inferInstanceAs (Decidable (∃ finding ∈ graph.findings key, finding.check = check))

/-- The first policy of a list that sets a mode switches mTLS off, and the first one after it that
lets mTLS in is strict. -/
def StrictAfterDisable (policies : List MeshObject) : Prop :=
  ∃ before off after, policies = before ++ off :: after ∧
    (∀ earlier ∈ before, peerAuthenticationMode earlier = .unset) ∧
      peerAuthenticationMode off = .disable ∧ StrictFirst after

/-- Some rule with a key switches mTLS off in a namespace. -/
def SwitchesOff (settings : MeshSettings) (snapshot : Snapshot) (ns : String) (key : ObjectKey) :
    Prop :=
  ∃ rule ∈ snapshot.destinationRules, ObjectKey.ofObject rule = key ∧
    namespaceWideMode settings ns rule = .disable

/-! ### Policies in order -/

/-- Where the first policy that sets a mode switches mTLS off, a strict policy is the first to let
mTLS in when it is the first to do so after that one. -/
theorem strictFirst_iff_strictAfterDisable {policies : List MeshObject}
    (h : MtlsMode.firstSet (policies.map peerAuthenticationMode) = .disable) :
    StrictFirst policies ↔ StrictAfterDisable policies := by
  have hpass : ∀ {before : List MeshObject} {off : MeshObject} (after : List MeshObject),
      (∀ earlier ∈ before, peerAuthenticationMode earlier = .unset) →
        peerAuthenticationMode off = .disable →
          (StrictFirst (before ++ off :: after) ↔ StrictFirst after) := by
    intro before off after hbefore hoff
    have hearlier : ∀ earlier ∈ before ++ [off], ¬ LetsMtlsIn earlier := by
      intro earlier hmem
      rcases List.mem_append.1 hmem with hmem | hmem
      · simp [LetsMtlsIn, hbefore earlier hmem]
      · simp [LetsMtlsIn, List.mem_singleton.1 hmem, hoff]
    have hstrict := @strictFirst_append (before ++ [off]) after hearlier
    rwa [List.append_assoc] at hstrict
  constructor
  · intro hstrict
    obtain ⟨before, off, after, rfl, hoff, hbefore⟩ :=
      (MtlsMode.firstSet_map_eq_iff (by decide)).1 h
    exact ⟨before, off, after, rfl, hbefore, hoff, (hpass after hbefore hoff).1 hstrict⟩
  · intro hafter
    obtain ⟨before, off, after, rfl, hbefore, hoff, hstrict⟩ := hafter
    exact (hpass after hbefore hoff).2 hstrict

/-- A strict policy that sets the first mode is the first to let mTLS in. -/
theorem strictFirst_of_firstSet {policies : List MeshObject}
    (h : MtlsMode.firstSet (policies.map peerAuthenticationMode) = .strict) :
    StrictFirst policies := by
  obtain ⟨before, policy, after, hsplit, hstrict, hbefore⟩ :=
    (MtlsMode.firstSet_map_eq_iff (by decide)).1 h
  refine ⟨before, policy, after, hsplit, hstrict, fun earlier hmem => ?_⟩
  simp [LetsMtlsIn, hbefore earlier hmem]

/-- A list whose first policy to let mTLS in is strict has a strict policy. -/
theorem StrictFirst.exists_strict {policies : List MeshObject} (h : StrictFirst policies) :
    ∃ policy ∈ policies, peerAuthenticationMode policy = .strict := by
  obtain ⟨before, policy, after, rfl, hstrict, -⟩ := h
  exact ⟨policy, by simp, hstrict⟩

/-! ### What is reported about a destination rule -/

/-- mTLS is switched off in a scope when its policies say so and its rules agree, or leave it to
negotiation. -/
theorem MeshSettings.tableStatus_eq_disabled_iff {settings : MeshSettings}
    {rule policy : MtlsMode} :
    settings.tableStatus rule policy = .disabled ↔
      policy = .disable ∧ (rule = .disable ∨ rule = .unset ∧ settings.autoMtls = true) := by
  unfold tableStatus
  grind [MtlsMode.isSet]

section

variable {settings : MeshSettings} {objects : List MeshObject} {ns name : String}

/-- The checks reported about a destination rule are those that the rules with its key fail. -/
theorem reports_analyze_destinationRule {check : Check} :
    (settings.analyze (.ofObjects objects)).Reports ⟨.destinationRule, ns, name⟩ check ↔
      ∃ rule ∈ (Snapshot.ofObjects objects).destinationRules,
        ObjectKey.ofObject rule = ⟨.destinationRule, ns, name⟩ ∧
          RuleFails settings (.ofObjects objects) rule check := by
  unfold Graph.Reports
  rw [MeshSettings.findings_analyze_destinationRule]
  simp only [List.mem_flatMap, List.mem_filter, List.mem_map, Option.mem_toList,
    decide_eq_true_eq, ruleFailure?_eq_some_iff]
  constructor
  · intro h
    obtain ⟨_, ⟨rule, ⟨hmem, hkey⟩, failed, hfails, rfl⟩, rfl⟩ := h
    exact ⟨rule, hmem, hkey, hfails⟩
  · intro h
    obtain ⟨rule, hmem, hkey, hfails⟩ := h
    exact ⟨_, ⟨rule, ⟨hmem, hkey⟩, check, hfails, rfl⟩, rfl⟩

/-- A check is reported about some destination rule when some rule fails it. -/
theorem exists_reports_destinationRule_iff {check : Check} :
    (∃ key, key.kind = .destinationRule ∧
        (settings.analyze (.ofObjects objects)).Reports key check) ↔
      ∃ rule ∈ (Snapshot.ofObjects objects).destinationRules,
        RuleFails settings (.ofObjects objects) rule check := by
  constructor
  · intro h
    obtain ⟨⟨kind, ns, name⟩, hkind, hreports⟩ := h
    obtain rfl : kind = .destinationRule := hkind
    obtain ⟨rule, hmem, -, hfails⟩ := reports_analyze_destinationRule.1 hreports
    exact ⟨rule, hmem, hfails⟩
  · intro h
    obtain ⟨rule, hmem, hfails⟩ := h
    have hkind : rule.kind = .destinationRule :=
      (@Snapshot.mem_ofKind_ofObjects objects .destinationRule rule).1 hmem |>.2
    have hkey : ObjectKey.ofObject rule = ⟨.destinationRule, rule.ns, rule.name⟩ := by
      rw [ObjectKey.ofObject, hkind]
    exact ⟨_, rfl, reports_analyze_destinationRule.2 ⟨rule, hmem, hkey, hfails⟩⟩

/-- A rule with a key of a namespace switches mTLS off in its own namespace when it does so in that
one. -/
theorem exists_switchesOff_iff {snapshot : Snapshot} (p : String → Prop) :
    (∃ rule ∈ snapshot.destinationRules,
        ObjectKey.ofObject rule = ⟨.destinationRule, ns, name⟩ ∧
          namespaceWideMode settings rule.ns rule = .disable ∧ p rule.ns) ↔
      SwitchesOff settings snapshot ns ⟨.destinationRule, ns, name⟩ ∧ p ns := by
  constructor
  · intro h
    obtain ⟨rule, hmem, hkey, hoff, hp⟩ := h
    obtain rfl : rule.ns = ns := congrArg ObjectKey.ns hkey
    exact ⟨⟨rule, hmem, hkey, hoff⟩, hp⟩
  · intro h
    obtain ⟨⟨rule, hmem, hkey, hoff⟩, hp⟩ := h
    obtain rfl : rule.ns = ns := congrArg ObjectKey.ns hkey
    exact ⟨rule, hmem, hkey, hoff, hp⟩

/-- A rule is reported for the policies of its namespace when it switches mTLS off there and a
strict policy comes first. -/
theorem reports_policyMtlsEnabled_iff :
    (settings.analyze (.ofObjects objects)).Reports ⟨.destinationRule, ns, name⟩
        .policyMtlsEnabled ↔
      SwitchesOff settings (.ofObjects objects) ns ⟨.destinationRule, ns, name⟩ ∧
        StrictFirst ((Snapshot.ofObjects objects).policiesOf ns) := by
  simp only [reports_analyze_destinationRule, ruleFails_policyMtlsEnabled_iff]
  exact exists_switchesOff_iff fun ns => StrictFirst ((Snapshot.ofObjects objects).policiesOf ns)

/-- A rule is reported for the policies of the mesh when it switches mTLS off, no policy of its
namespace lets mTLS in, and one of the root namespace is strict. -/
theorem reports_meshPolicyMtlsEnabled_iff :
    (settings.analyze (.ofObjects objects)).Reports ⟨.destinationRule, ns, name⟩
        .meshPolicyMtlsEnabled ↔
      SwitchesOff settings (.ofObjects objects) ns ⟨.destinationRule, ns, name⟩ ∧
        (∀ own ∈ (Snapshot.ofObjects objects).policiesOf ns, ¬ LetsMtlsIn own) ∧
          ∃ policy ∈ (Snapshot.ofObjects objects).policiesOf settings.rootNamespace,
            peerAuthenticationMode policy = .strict := by
  simp only [reports_analyze_destinationRule, ruleFails_meshPolicyMtlsEnabled_iff]
  exact exists_switchesOff_iff fun ns =>
    (∀ own ∈ (Snapshot.ofObjects objects).policiesOf ns, ¬ LetsMtlsIn own) ∧
      ∃ policy ∈ (Snapshot.ofObjects objects).policiesOf settings.rootNamespace,
        peerAuthenticationMode policy = .strict

/-- A rule that switches mTLS off in a strict namespace fails the check for that when it lives there,
and no check when it lives elsewhere. -/
theorem ruleFails_iff_of_strictFirst {snapshot : Snapshot} {rule : MeshObject} {check : Check}
    (hoff : namespaceWideMode settings ns rule = .disable)
    (hstrict : StrictFirst (snapshot.policiesOf ns)) :
    RuleFails settings snapshot rule check ↔ check = .policyMtlsEnabled ∧ rule.ns = ns := by
  obtain ⟨hhost, hmode⟩ := namespaceWideMode_eq_disable.1 hoff
  constructor
  · intro h
    have hns : rule.ns = ns := by
      have hsame := Option.some.inj (h.host_eq.symm.trans hhost)
      exact MeshSettings.namespaceWideHost_inj.1 hsame
    subst hns
    refine ⟨?_, rfl⟩
    cases h with
    | namespaceStrict _ _ _ => rfl
    | meshStrict _ _ hnone _ _ _ =>
      obtain ⟨policy, hmem, hpolicy⟩ := hstrict.exists_strict
      obtain ⟨hmem, hns⟩ := Snapshot.mem_policiesOf.1 hmem
      exact absurd (.inl hpolicy) (hnone policy hmem hns)
    | unbacked _ hmutual _ _ =>
      rw [hmode] at hmutual
      simp at hmutual
  · intro h
    obtain ⟨rfl, rfl⟩ := h
    exact ruleFails_policyMtlsEnabled_iff.2 ⟨hoff, hstrict⟩

/-- No rule is reported for switching mTLS off in a namespace for which no rule has a mode. -/
theorem not_switchesOff {snapshot : Snapshot} {key : ObjectKey}
    (h : (settings.namespaceMtls snapshot ns).rule = .unset) :
    ¬ SwitchesOff settings snapshot ns key := by
  intro hoff
  obtain ⟨rule, hmem, -, hmode⟩ := hoff
  have hunset := MtlsMode.firstSet_eq_unset_iff.1 h _ (List.mem_map_of_mem hmem)
  rw [hmode] at hunset
  exact absurd hunset (by decide)

end

/-! ### The two views of a namespace -/

/-- Where mTLS is off in a namespace, the rules that switch it off are reported when a strict policy
is the first to let mTLS in after one that switches it off, or when no policy lets mTLS in and the
mesh is strict. -/
theorem disabled_namespace_reports_iff (settings : MeshSettings) (objects : List MeshObject)
    (ns : String)
    (off : (settings.namespaceMtls (.ofObjects objects) ns).status = some .disabled) :
    let snapshot := Snapshot.ofObjects objects
    let graph := settings.analyze snapshot
    (∀ name, let key : ObjectKey := ⟨.destinationRule, ns, name⟩
      (graph.Reports key .policyMtlsEnabled ↔
        SwitchesOff settings snapshot ns key ∧ StrictAfterDisable (snapshot.policiesOf ns)) ∧
      (graph.Reports key .meshPolicyMtlsEnabled ↔
        SwitchesOff settings snapshot ns key ∧
          (∀ own ∈ snapshot.policiesOf ns, ¬ LetsMtlsIn own) ∧
            ∃ policy ∈ snapshot.policiesOf settings.rootNamespace,
              peerAuthenticationMode policy = .strict)) ∧
    ((settings.namespaceMtls snapshot ns).rule = .unset ∨
        (∀ policy ∈ snapshot.policiesOf ns ++ snapshot.policiesOf settings.rootNamespace,
          peerAuthenticationMode policy ≠ .strict) →
      ∀ name, ¬ graph.Reports ⟨.destinationRule, ns, name⟩ .policyMtlsEnabled ∧
        ¬ graph.Reports ⟨.destinationRule, ns, name⟩ .meshPolicyMtlsEnabled) := by
  intro snapshot graph
  have htable := MeshSettings.tableStatus_eq_disabled_iff.1 (Option.some.inj off)
  have hfirst : StrictFirst (snapshot.policiesOf ns) ↔ StrictAfterDisable (snapshot.policiesOf ns) :=
    strictFirst_iff_strictAfterDisable htable.1
  refine ⟨fun name => ⟨?_, reports_meshPolicyMtlsEnabled_iff⟩, fun h name => ?_⟩
  · rw [← hfirst]
    exact reports_policyMtlsEnabled_iff
  · rw [reports_policyMtlsEnabled_iff, reports_meshPolicyMtlsEnabled_iff]
    rcases h with hunset | hnone
    · have hoff := @not_switchesOff settings ns snapshot ⟨.destinationRule, ns, name⟩ hunset
      exact ⟨fun h => hoff h.1, fun h => hoff h.1⟩
    · refine ⟨fun h => ?_, fun h => ?_⟩
      · obtain ⟨policy, hmem, hstrict⟩ := h.2.exists_strict
        exact hnone policy (List.mem_append_left _ hmem) hstrict
      · obtain ⟨policy, hmem, hstrict⟩ := h.2.2
        exact hnone policy (List.mem_append_right _ hmem) hstrict

/-- A strict policy after the one that switches mTLS off gets the rule reported, though by its status
the namespace has mTLS off. -/
theorem disabled_namespace_reports_late_strict :
    let objects := [namespacePolicy "off" "bookinfo" "DISABLE",
      namespacePolicy "on" "bookinfo" "STRICT",
      hostRule "plain" "bookinfo" "*.bookinfo.svc.cluster.local" "DISABLE"]
    (MeshSettings.namespaceMtls {} (.ofObjects objects) "bookinfo").status = some .disabled ∧
      (MeshSettings.analyze {} (.ofObjects objects)).Reports
        ⟨.destinationRule, "bookinfo", "plain"⟩ .policyMtlsEnabled := by
  intro objects
  have hoff : (MeshSettings.namespaceMtls {} (.ofObjects objects) "bookinfo").status =
      some .disabled := by decide
  have hreports := ((disabled_namespace_reports_iff {} objects "bookinfo" hoff).1 "plain").1
  refine ⟨hoff, hreports.2 ⟨⟨_, .head _, rfl, rfl⟩, [], _, _, rfl, by simp, rfl, ?_⟩⟩
  exact ⟨[], _, [], rfl, rfl, by simp⟩

/-- A namespace with mTLS off by its status can be reported for a later policy of its own and for a
policy of the mesh. -/
theorem disabled_namespace_reported :
    let rule := hostRule "plain" "bookinfo" "*.bookinfo.svc.cluster.local" "DISABLE"
    let later := Snapshot.ofObjects [namespacePolicy "off" "bookinfo" "DISABLE",
      namespacePolicy "on" "bookinfo" "STRICT", rule]
    let mesh := Snapshot.ofObjects [namespacePolicy "off" "bookinfo" "DISABLE",
      namespacePolicy "on" "istio-system" "STRICT", rule]
    ((MeshSettings.namespaceMtls {} later "bookinfo").status = some .disabled ∧
      (MeshSettings.analyze {} later).Reports ⟨.destinationRule, "bookinfo", "plain"⟩
        .policyMtlsEnabled) ∧
    ((MeshSettings.namespaceMtls {} mesh "bookinfo").status = some .disabled ∧
      (MeshSettings.analyze {} mesh).Reports ⟨.destinationRule, "bookinfo", "plain"⟩
        .meshPolicyMtlsEnabled) := by
  decide

/-- Where the rules for a namespace switch mTLS off against a strict policy of it, there is such a
rule. Each of them is reported when it lives in the namespace itself, and fails no check when it
lives elsewhere. -/
theorem opposed_namespace_reports_iff (settings : MeshSettings) (objects : List MeshObject)
    (ns : String)
    (ruleOff : (settings.namespaceMtls (.ofObjects objects) ns).rule = .disable)
    (policyStrict : (settings.namespaceMtls (.ofObjects objects) ns).policy = .strict) :
    let snapshot := Snapshot.ofObjects objects
    let graph := settings.analyze snapshot
    (∃ rule ∈ snapshot.destinationRules, namespaceWideMode settings ns rule = .disable) ∧
    (∀ rule ∈ snapshot.destinationRules, namespaceWideMode settings ns rule = .disable →
      ∀ check, RuleFails settings snapshot rule check ↔
        check = .policyMtlsEnabled ∧ rule.ns = ns) ∧
    (∀ name, graph.Reports ⟨.destinationRule, ns, name⟩ .policyMtlsEnabled ↔
      SwitchesOff settings snapshot ns ⟨.destinationRule, ns, name⟩) ∧
    ((∃ key, key.kind = .destinationRule ∧ graph.Reports key .policyMtlsEnabled) ↔
      (∃ rule ∈ snapshot.destinationRules, rule.ns = ns ∧
        namespaceWideMode settings ns rule = .disable) ∨
      ∃ rule ∈ snapshot.destinationRules, rule.ns ≠ ns ∧
        namespaceWideMode settings rule.ns rule = .disable ∧
          StrictFirst (snapshot.policiesOf rule.ns)) := by
  intro snapshot graph
  have hstrict : StrictFirst (snapshot.policiesOf ns) := strictFirst_of_firstSet policyStrict
  refine ⟨?_, fun rule _ hoff check => ruleFails_iff_of_strictFirst hoff hstrict, fun name => ?_, ?_⟩
  · obtain ⟨before, rule, after, hsplit, hoff, -⟩ :=
      (MtlsMode.firstSet_map_eq_iff (by decide)).1 ruleOff
    have hsplit : snapshot.destinationRules = before ++ rule :: after := hsplit
    exact ⟨rule, by simp [hsplit], hoff⟩
  · rw [reports_policyMtlsEnabled_iff]
    exact and_iff_left hstrict
  · rw [exists_reports_destinationRule_iff]
    simp only [ruleFails_policyMtlsEnabled_iff]
    constructor
    · intro h
      obtain ⟨rule, hmem, hoff, hfirst⟩ := h
      by_cases hns : rule.ns = ns
      · exact .inl ⟨rule, hmem, hns, hns ▸ hoff⟩
      · exact .inr ⟨rule, hmem, hns, hoff, hfirst⟩
    · intro h
      rcases h with ⟨rule, hmem, hns, hoff⟩ | ⟨rule, hmem, -, hoff, hfirst⟩
      · exact ⟨rule, hmem, hns.symm ▸ hoff, hns.symm ▸ hstrict⟩
      · exact ⟨rule, hmem, hoff, hfirst⟩

/-- A rule of the namespace and one of the root namespace switch mTLS off in a strict namespace. The
first is reported, and the second fails no check. -/
theorem opposed_namespace_reports_own_rule :
    let outside := hostRule "outside" "istio-system" "*.bookinfo.svc.cluster.local" "DISABLE"
    let objects := [namespacePolicy "on" "bookinfo" "STRICT", outside,
      hostRule "plain" "bookinfo" "*.bookinfo.svc.cluster.local" "DISABLE"]
    ((MeshSettings.namespaceMtls {} (.ofObjects objects) "bookinfo").rule = .disable ∧
      (MeshSettings.namespaceMtls {} (.ofObjects objects) "bookinfo").policy = .strict) ∧
    (MeshSettings.analyze {} (.ofObjects objects)).Reports ⟨.destinationRule, "bookinfo", "plain"⟩
      .policyMtlsEnabled ∧
    ∀ check, ¬ RuleFails {} (.ofObjects objects) outside check := by
  intro outside objects
  have hrule : (MeshSettings.namespaceMtls {} (.ofObjects objects) "bookinfo").rule = .disable := by
    decide
  have hpolicy : (MeshSettings.namespaceMtls {} (.ofObjects objects) "bookinfo").policy =
      .strict := by decide
  obtain ⟨-, hfails, hreports, -⟩ :=
    opposed_namespace_reports_iff {} objects "bookinfo" hrule hpolicy
  refine ⟨⟨hrule, hpolicy⟩, (hreports "plain").2 ⟨_, .tail _ (.head _), rfl, rfl⟩, fun check h => ?_⟩
  have hns := ((hfails outside (.head _) rfl check).1 h).2
  exact absurd hns (by decide)

/-- A rule that lives elsewhere switches mTLS off in a strict namespace, and nothing is reported. -/
theorem opposed_namespace_unreported :
    let snapshot := Snapshot.ofObjects [namespacePolicy "on" "bookinfo" "STRICT",
      hostRule "plain" "istio-system" "*.bookinfo.svc.cluster.local" "DISABLE"]
    (MeshSettings.namespaceMtls {} snapshot "bookinfo").rule = .disable ∧
      (MeshSettings.namespaceMtls {} snapshot "bookinfo").policy = .strict ∧
        MeshSettings.analyze {} snapshot = ∅ := by
  decide

end MeshAudit

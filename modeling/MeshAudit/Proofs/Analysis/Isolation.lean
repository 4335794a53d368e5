import MeshAudit.Proofs.Analysis.DestinationRules
import MeshAudit.Proofs.Analysis.Soundness
import MeshAudit.Proofs.Graph.Comparison
import MeshAudit.Proofs.Mtls.Inheritance
import MeshAudit.Proofs.Route.Meeting

/-!
# What a result depends on

Each result about a namespace reads a part of the snapshot only: its mTLS report the policies that
apply there and the rules that address it as a whole, the entry of a destination rule the rules with
its key and these policies, and the entry of a virtual service the virtual services of its namespace
and the names of all namespaces. Two snapshots that have such a part in common have the result in
common, whatever else they hold.
-/

namespace MeshAudit

/-! ### Common parts of two snapshots -/

/-- A rule for all services of a namespace or of the mesh, by its host. -/
def AddressesAll (settings : MeshSettings) (ns : String) (rule : MeshObject) : Prop :=
  rule.bodyText? ["host"] = some (settings.namespaceWideHost ns) ∨
    rule.bodyText? ["host"] = some meshWideHost

instance (settings : MeshSettings) (ns : String) :
    DecidablePred (AddressesAll settings ns) :=
  fun _ => inferInstanceAs (Decidable (_ ∨ _))

namespace Snapshot

/-- Two snapshots have the policies that apply in a namespace in common: its own and those of the
root namespace, in their order. -/
structure SamePolicies (settings : MeshSettings) (ns : String) (snapshot other : Snapshot) :
    Prop where
  /-- The policies of the namespace. -/
  own : snapshot.policiesOf ns = other.policiesOf ns
  /-- The policies of the root namespace. -/
  root : snapshot.policiesOf settings.rootNamespace = other.policiesOf settings.rootNamespace

/-- Two snapshots have in common what decides the mTLS of a namespace: the policies that apply there
and the rules for all its services or for all of the mesh, wherever they live. -/
structure SameMtls (settings : MeshSettings) (ns : String) (snapshot other : Snapshot) :
    Prop extends SamePolicies settings ns snapshot other where
  /-- The rules for all services. -/
  rules : snapshot.destinationRules.filter (AddressesAll settings ns ·) =
    other.destinationRules.filter (AddressesAll settings ns ·)

/-- Two snapshots have the rules of a key in common, and the policies that apply to them. -/
structure SameRules (settings : MeshSettings) (ns name : String) (snapshot other : Snapshot) :
    Prop extends SamePolicies settings ns snapshot other where
  /-- The rules with the key. -/
  rules :
    snapshot.destinationRules.filter (ObjectKey.ofObject · = ⟨.destinationRule, ns, name⟩) =
      other.destinationRules.filter (ObjectKey.ofObject · = ⟨.destinationRule, ns, name⟩)

/-- Two snapshots have the virtual services of a namespace in common, and the names of all
namespaces. -/
structure SameServices (ns : String) (snapshot other : Snapshot) : Prop where
  /-- The namespaces that own an object. -/
  namespaces : ∀ space, space ∈ snapshot.namespaces ↔ space ∈ other.namespaces
  /-- The virtual services of the namespace. -/
  services : snapshot.virtualServices.filter (MeshObject.ns · = ns) =
    other.virtualServices.filter (MeshObject.ns · = ns)

end Snapshot

/-! ### mTLS reports -/

/-- The first mode that is set for a host is that of the rules which name the host. -/
theorem firstSet_map_destinationRuleMode_filter {host : String} {keep : MeshObject → Bool}
    (h : ∀ rule, rule.bodyText? ["host"] = some host → keep rule = true)
    (rules : List MeshObject) :
    MtlsMode.firstSet ((rules.filter keep).map (destinationRuleMode host)) =
      MtlsMode.firstSet (rules.map (destinationRuleMode host)) := by
  have hother : ∀ rule, keep rule = false → (destinationRuleMode host rule).isSet = false := by
    intro rule hkeep
    have hhost : rule.bodyText? ["host"] ≠ some host := fun hhost => by simp [h rule hhost] at hkeep
    rw [destinationRuleMode_of_ne hhost]
    rfl
  unfold MtlsMode.firstSet
  rw [List.find?_map, List.find?_map, List.find?_filter]
  congr 3
  funext rule
  cases hkeep : keep rule with
  | true => simp
  | false => simp [hother rule hkeep]

namespace MeshSettings

variable (settings : MeshSettings) {snapshot other : Snapshot} {ns name : String}

/-- The report of a namespace depends on four modes: those of the policies and of the rules, for the
namespace and for the mesh. -/
theorem mtlsReport_eq_of_modes
    (own : MtlsMode.firstSet ((snapshot.policiesOf ns).map peerAuthenticationMode) =
      .firstSet ((other.policiesOf ns).map peerAuthenticationMode))
    (root : MtlsMode.firstSet
        ((snapshot.policiesOf settings.rootNamespace).map peerAuthenticationMode) =
      .firstSet ((other.policiesOf settings.rootNamespace).map peerAuthenticationMode))
    (rules : MtlsMode.firstSet
        (snapshot.destinationRules.map (destinationRuleMode (settings.namespaceWideHost ns))) =
      .firstSet (other.destinationRules.map (destinationRuleMode (settings.namespaceWideHost ns))))
    (meshRules : MtlsMode.firstSet
        (snapshot.destinationRules.map (destinationRuleMode meshWideHost)) =
      .firstSet (other.destinationRules.map (destinationRuleMode meshWideHost))) :
    settings.mtlsReport snapshot ns = settings.mtlsReport other ns := by
  have hown : settings.namespaceMtls snapshot ns = settings.namespaceMtls other ns :=
    congrArg₂ settings.scopeStatus rules own
  have hmesh : settings.meshMtls snapshot = settings.meshMtls other :=
    congrArg₂ settings.meshStatus meshRules root
  rw [mtlsReport, mtlsReport, hown, hmesh]

/-- The report of a namespace is the same for snapshots that have in common what decides its
mTLS. -/
theorem mtlsReport_eq_of_same (h : snapshot.SameMtls settings ns other) :
    settings.mtlsReport snapshot ns = settings.mtlsReport other ns := by
  have hrules : ∀ host, host = settings.namespaceWideHost ns ∨ host = meshWideHost →
      MtlsMode.firstSet (snapshot.destinationRules.map (destinationRuleMode host)) =
        MtlsMode.firstSet (other.destinationRules.map (destinationRuleMode host)) := by
    intro host hhost
    have hkeep : ∀ rule : MeshObject, rule.bodyText? ["host"] = some host →
        decide (AddressesAll settings ns rule) = true := by
      intro rule hrule
      simpa [AddressesAll, hrule] using hhost
    rw [← firstSet_map_destinationRuleMode_filter hkeep, h.rules,
      firstSet_map_destinationRuleMode_filter hkeep]
  exact settings.mtlsReport_eq_of_modes (by rw [h.own]) (by rw [h.root]) (hrules _ (.inl rfl))
    (hrules _ (.inr rfl))

/-! ### Entries of destination rules -/

/-- The check that a rule fails is the same where the policies of its namespace and those of the
root namespace are. -/
theorem ruleFailure?_eq_of_samePolicies {rule : MeshObject}
    (h : snapshot.SamePolicies settings rule.ns other) :
    ruleFailure? settings snapshot rule = ruleFailure? settings other rule := by
  unfold ruleFailure? disabledRuleCheck? requiredRuleCheck? Snapshot.policies
  simp only [h.own, h.root]

variable {objects others : List MeshObject}

/-- The entry of a destination rule is the same for snapshots that have the rules with its key in
common, and the policies that apply to them. -/
theorem get?_analyze_eq_of_sameRules
    (h : (Snapshot.ofObjects objects).SameRules settings ns name (.ofObjects others)) :
    (settings.analyze (.ofObjects objects)).get? ⟨.destinationRule, ns, name⟩ =
      (settings.analyze (.ofObjects others)).get? ⟨.destinationRule, ns, name⟩ := by
  refine (settings.sound_analyze _).get?_eq_of_same (settings.sound_analyze _) ?_ fun x => ?_
  · rw [findings_analyze_destinationRule, findings_analyze_destinationRule, h.rules]
    refine List.flatMap_congr fun rule hrule => ?_
    have hkey : ObjectKey.ofObject rule = ⟨.destinationRule, ns, name⟩ := by
      simpa using (List.mem_filter.1 hrule).2
    have hns : rule.ns = ns := congrArg ObjectKey.ns hkey
    rw [settings.ruleFailure?_eq_of_samePolicies (hns ▸ h.toSamePolicies)]
  · have hleft := settings.not_mem_references_analyze_destinationRule objects ns name x
    have hright := settings.not_mem_references_analyze_destinationRule others ns name x
    exact iff_of_false hleft hright

/-! ### Entries of virtual services -/

/-- The check of the virtual services of one namespace is silent about those of another one. -/
theorem findings_sharedHostGraph_of_ns_ne (known : List String) (services : List MeshObject)
    {space : String} {key : ObjectKey} (h : key.ns ≠ space) :
    (sharedHostGraph settings known (services.filter (MeshObject.ns · = space))).findings key =
      [] := by
  by_contra hne
  obtain ⟨service, hmem, rfl⟩ := onlyAbout_sharedHostGraph _ _ _ key hne
  have hns : service.ns = space := by simpa using (List.mem_filter.1 hmem).2
  exact h hns

/-- Of the checks of all namespaces only that of its own one has findings about a virtual service.
-/
theorem findings_virtualServiceFindings_of_ns (key : ObjectKey) :
    (settings.virtualServiceFindings snapshot).findings key =
      (sharedHostGraph settings snapshot.namespaces
        (snapshot.virtualServices.filter (MeshObject.ns · = key.ns))).findings key := by
  have hother : ∀ spaces : List String, key.ns ∉ spaces → spaces.flatMap (fun space =>
      (sharedHostGraph settings snapshot.namespaces
        (snapshot.virtualServices.filter (MeshObject.ns · = space))).findings key) = [] := by
    intro spaces hnot
    refine List.flatMap_eq_nil_iff.2 fun space hspace => ?_
    exact settings.findings_sharedHostGraph_of_ns_ne _ _ fun h => hnot (h ▸ hspace)
  rw [findings_virtualServiceFindings, byNamespace, List.flatMap_map]
  by_cases hmem : key.ns ∈ (SortedSet.ofList (snapshot.virtualServices.map MeshObject.ns)).toList
  · have hnodup := SortedSet.nodup_toList
      (SortedSet.ofList (snapshot.virtualServices.map MeshObject.ns))
    obtain ⟨before, after, hsplit⟩ := List.append_of_mem hmem
    rw [hsplit] at hnodup ⊢
    obtain ⟨hbefore, hafter⟩ : key.ns ∉ before ∧ key.ns ∉ after := by
      have hmiddle := (List.nodup_middle.1 hnodup).notMem
      simpa using hmiddle
    rw [List.flatMap_append, List.flatMap_cons, hother before hbefore, hother after hafter,
      List.nil_append, List.append_nil]
  · have hnone : snapshot.virtualServices.filter (MeshObject.ns · = key.ns) = [] := by
      refine List.filter_eq_nil_iff.2 fun service hservice hns => hmem ?_
      exact SortedSet.mem_ofList.2 (List.mem_map.2 ⟨service, hservice, by simpa using hns⟩)
    rw [hother _ hmem, hnone]
    rfl

/-- A virtual service refers to those that the check of its own namespace makes it refer to. -/
theorem mem_references_virtualServiceFindings_of_ns {key x : ObjectKey} :
    x ∈ (settings.virtualServiceFindings snapshot).references key ↔
      x ∈ (sharedHostGraph settings snapshot.namespaces
        (snapshot.virtualServices.filter (MeshObject.ns · = key.ns))).references key := by
  rw [mem_references_virtualServiceFindings]
  constructor
  · rintro ⟨services, hservices, hx⟩
    obtain ⟨space, -, rfl⟩ := List.mem_map.1 hservices
    have hfindings := (Graph.hasFindings_ofEntries _).findings_ne_nil_of_mem hx
    by_cases hns : key.ns = space
    · exact hns ▸ hx
    · exact absurd (settings.findings_sharedHostGraph_of_ns_ne _ _ hns) hfindings
  · intro hx
    refine ⟨_, List.mem_map.2 ⟨key.ns, ?_, rfl⟩, hx⟩
    have hfindings := (Graph.hasFindings_ofEntries _).findings_ne_nil_of_mem hx
    obtain ⟨service, hmem, rfl⟩ := onlyAbout_sharedHostGraph _ _ _ key hfindings
    exact SortedSet.mem_ofList.2 (List.mem_map_of_mem (List.mem_filter.1 hmem).1)

/-- The same namespaces are listed in the same order. -/
theorem namespaces_eq_of_mem_iff
    (h : ∀ space, space ∈ snapshot.namespaces ↔ space ∈ other.namespaces) :
    snapshot.namespaces = other.namespaces :=
  congrArg SortedSet.toList (SortedSet.ext_mem h)

/-- The entry of a virtual service is the same for snapshots that have the virtual services of its
namespace in common, and the names of all namespaces. -/
theorem get?_analyze_eq_of_sameServices
    (h : (Snapshot.ofObjects objects).SameServices ns (.ofObjects others)) :
    (settings.analyze (.ofObjects objects)).get? ⟨.virtualService, ns, name⟩ =
      (settings.analyze (.ofObjects others)).get? ⟨.virtualService, ns, name⟩ := by
  refine (settings.sound_analyze _).get?_eq_of_same (settings.sound_analyze _) ?_ fun x => ?_
  · rw [findings_analyze, findings_analyze]
    change (settings.virtualServiceFindings _).findings _ =
      (settings.virtualServiceFindings _).findings _
    rw [findings_virtualServiceFindings_of_ns, findings_virtualServiceFindings_of_ns,
      namespaces_eq_of_mem_iff h.namespaces, h.services]
  · rw [mem_references_analyze, mem_references_analyze]
    change x ∈ (settings.virtualServiceFindings _).references _ ↔
      x ∈ (settings.virtualServiceFindings _).references _
    rw [mem_references_virtualServiceFindings_of_ns, mem_references_virtualServiceFindings_of_ns,
      namespaces_eq_of_mem_iff h.namespaces, h.services]

end MeshSettings

/-- The mTLS report of a namespace, the entry of a destination rule and the entries of the virtual
services of a namespace each depend on their own part of a snapshot only: two snapshots that have it
in common agree on them. -/
theorem results_isolated (settings : MeshSettings) (objects others : List MeshObject) :
    let snapshot := Snapshot.ofObjects objects
    let other := Snapshot.ofObjects others
    (∀ ns, snapshot.SameMtls settings ns other →
      settings.mtlsReport snapshot ns = settings.mtlsReport other ns) ∧
    (∀ ns name, snapshot.SameRules settings ns name other →
      (settings.analyze snapshot).get? ⟨.destinationRule, ns, name⟩ =
        (settings.analyze other).get? ⟨.destinationRule, ns, name⟩) ∧
    ∀ ns, snapshot.SameServices ns other → ∀ name,
      (settings.analyze snapshot).get? ⟨.virtualService, ns, name⟩ =
        (settings.analyze other).get? ⟨.virtualService, ns, name⟩ :=
  ⟨fun _ h => settings.mtlsReport_eq_of_same h,
    fun _ _ h => settings.get?_analyze_eq_of_sameRules h,
    fun _ h _ => settings.get?_analyze_eq_of_sameServices h⟩

/-- Policies, rules and routes elsewhere change nothing of what is said about a namespace, though
they change what is said about others. -/
theorem results_isolated_bookinfo :
    let bookinfo := [namespacePolicy "on" "bookinfo" "STRICT",
      hostRule "plain" "bookinfo" "*.bookinfo.svc.cluster.local" "DISABLE",
      gatewayRoute "reviews" "bookinfo" [] ["reviews"],
      gatewayRoute "ratings" "bookinfo" [] ["reviews"]]
    let objects := gatewayRoute "shop" "default" [] ["shop"] :: bookinfo
    let others := bookinfo ++ [namespacePolicy "off" "default" "DISABLE",
      hostRule "cart" "bookinfo" "cart.bookinfo.svc.cluster.local" "MUTUAL",
      hostRule "plain" "default" "*.default.svc.cluster.local" "MUTUAL"]
    let snapshot := Snapshot.ofObjects objects
    let other := Snapshot.ofObjects others
    let graph := MeshSettings.analyze {} snapshot
    let graphOther := MeshSettings.analyze {} other
    MeshSettings.mtlsReport {} snapshot "bookinfo" = MeshSettings.mtlsReport {} other "bookinfo" ∧
      graph.get? ⟨.destinationRule, "bookinfo", "plain"⟩ =
        graphOther.get? ⟨.destinationRule, "bookinfo", "plain"⟩ ∧
      graph.get? ⟨.virtualService, "bookinfo", "reviews"⟩ =
        graphOther.get? ⟨.virtualService, "bookinfo", "reviews"⟩ ∧
      graph ≠ graphOther := by
  intro bookinfo objects others snapshot other graph graphOther
  obtain ⟨hreport, hrule, hroute⟩ := results_isolated {} objects others
  have hnamespaces : snapshot.namespaces = other.namespaces := by decide
  have hpolicies : snapshot.SamePolicies {} "bookinfo" other := ⟨rfl, rfl⟩
  refine ⟨hreport "bookinfo" ⟨hpolicies, rfl⟩, hrule "bookinfo" "plain" ⟨hpolicies, rfl⟩,
    hroute "bookinfo" ⟨fun space => by rw [hnamespaces], rfl⟩ "reviews", ?_⟩
  decide

end MeshAudit

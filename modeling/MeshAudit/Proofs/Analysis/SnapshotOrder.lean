import MeshAudit.Proofs.Analysis.Contents
import MeshAudit.Proofs.Gateway.HostPlace
import MeshAudit.Proofs.Graph.Agreement
import MeshAudit.Proofs.Mtls.Inheritance

/-!
# The order of a snapshot

Objects may be given in any order, but for the peer authentications of one namespace, of which the
first that sets a mode counts. The checks compare an object with all others, so that another order
permutes the entries that a check takes in, and a permuted list of entries makes a graph that says
the same.
-/

namespace MeshAudit

/-! ### Gateways -/

/-- What a binding contributes with the earlier ones does not depend on their order. -/
theorem conflictEntries_perm {earlier other : List ScopedBinding} (h : earlier.Perm other)
    (b : ScopedBinding) : (conflictEntries earlier b).Perm (conflictEntries other b) :=
  (h.filter _).flatMap_right _

/-- What a binding contributes with earlier ones and a last one. -/
theorem conflictEntries_append (earlier : List ScopedBinding) (b c : ScopedBinding) :
    conflictEntries (earlier ++ [c]) b = conflictEntries earlier b ++ conflictEntries [c] b := by
  simp only [conflictEntries, List.filter_append, List.flatMap_append]

/-- Two bindings contribute the same whichever of them comes first. -/
theorem conflictEntries_singleton_perm (b c : ScopedBinding) :
    (conflictEntries [b] c).Perm (conflictEntries [c] b) := by
  unfold conflictEntries
  cases h : b.conflicts c with
  | false => simp [ScopedBinding.conflicts_comm c b, h]
  | true =>
    simp only [ScopedBinding.conflicts_comm c b, h, List.filter_cons_of_pos, List.filter_nil,
      List.flatMap_cons, List.flatMap_nil, List.append_nil]
    exact .swap _ _ _

/-- What a list of bindings contributes does not depend on the order of those before it. -/
theorem overlapEntries_perm_of_earlier {earlier other : List ScopedBinding}
    (h : earlier.Perm other) (bindings : List ScopedBinding) :
    (overlapEntries earlier bindings).Perm (overlapEntries other bindings) := by
  induction bindings generalizing earlier other with
  | nil => exact .nil
  | cons b rest ih => exact (conflictEntries_perm h b).append (ih (h.append_right [b]))

/-- What a list of bindings contributes does not depend on its order either. Two bindings side by
side see each other whichever comes first, and the later ones see both. -/
theorem overlapEntries_perm_of_perm {bindings other : List ScopedBinding}
    (h : bindings.Perm other) (earlier : List ScopedBinding) :
    (overlapEntries earlier bindings).Perm (overlapEntries earlier other) := by
  induction h generalizing earlier with
  | nil => exact .nil
  | cons b _ ih => exact (ih (earlier ++ [b])).append_left _
  | swap b c rest =>
    -- the later bindings are compared with both, so their earlier ones are only permuted
    have hlater : (earlier ++ [c] ++ [b]).Perm (earlier ++ [b] ++ [c]) := by
      simp only [List.append_assoc]
      exact (List.Perm.swap b c []).append_left earlier
    have hfirst : (conflictEntries earlier c ++ conflictEntries (earlier ++ [c]) b).Perm
        (conflictEntries earlier b ++ conflictEntries (earlier ++ [b]) c) := by
      rw [conflictEntries_append, conflictEntries_append, ← List.append_assoc, ← List.append_assoc]
      exact List.perm_append_comm.append (conflictEntries_singleton_perm c b)
    simp only [overlapEntries, ← List.append_assoc]
    exact hfirst.append (overlapEntries_perm_of_earlier hlater rest)
  | trans _ _ ih ih' => exact (ih earlier).trans (ih' earlier)

/-- The overlap check says the same of the gateways in every order. -/
theorem agrees_gatewayGraph {gateways other : List MeshObject} (h : gateways.Perm other) :
    (gatewayGraph gateways).Agrees (gatewayGraph other) :=
  Graph.agrees_ofEntries (overlapEntries_perm_of_perm (h.flatMap_right _) [])

/-! ### Grouping by namespace -/

/-- Permuted objects have the same namespaces. -/
theorem namespaces_eq_of_perm {objects other : List MeshObject} (h : objects.Perm other) :
    SortedSet.ofList (objects.map MeshObject.ns) = SortedSet.ofList (other.map MeshObject.ns) :=
  SortedSet.ofList_eq_of_perm (h.map _)

/-- Permuted objects are still permuted once they are grouped by namespace. -/
theorem byNamespace_flatten_perm {objects other : List MeshObject} (h : objects.Perm other) :
    (byNamespace objects).flatten.Perm (byNamespace other).flatten := by
  unfold byNamespace
  rw [namespaces_eq_of_perm h, ← List.flatMap_def, ← List.flatMap_def]
  exact List.Perm.flatMap_left _ fun ns _ => h.filter _

/-! ### Virtual services -/

/-- A warning does not depend on the order in which the others are listed. -/
theorem sharedHostEntry_eq_of_perm {others list : List ObjectKey} (h : others.Perm list)
    (key : ObjectKey) : sharedHostEntry key others = sharedHostEntry key list := by
  refine Entry.ext (by simp) (by simp) (by simp) (SortedSet.ext_mem fun x => ?_)
  rw [mem_references_sharedHostEntry, mem_references_sharedHostEntry, h.mem_iff]

/-- Permuted claims have permuted warnings. -/
theorem claimEntries_perm {claims other : List (HostClaim × ObjectKey)} (h : claims.Perm other)
    (claim : HostClaim) : (claimEntries claims claim).Perm (claimEntries other claim) := by
  have hsharing : (claimants claims claim).Perm (claimants other claim) := (h.filter _).map _
  have hwide : (namespaceClaimants claims claim.ns).Perm (namespaceClaimants other claim.ns) :=
    (h.filter _).map _
  have hshadowed : isShadowed claims claim.ns = isShadowed other claim.ns := by
    unfold isShadowed
    rw [h.any_eq, h.any_eq]
  unfold claimEntries
  simp only [hsharing.length_eq, hshadowed, sharedHostEntry_eq_of_perm hsharing,
    sharedHostEntry_eq_of_perm hwide]
  exact hsharing.flatMap_right _

/-- The check of shared hosts makes the same graph of the virtual services in every order: all its
findings are alike. -/
theorem sharedHostGraph_eq_of_perm {services other : List MeshObject} (h : services.Perm other)
    (settings : MeshSettings) (known : List String) :
    sharedHostGraph settings known services = sharedHostGraph settings known other := by
  have hclaims : (allClaims settings known services).Perm (allClaims settings known other) :=
    h.flatMap_right _
  have hentries : (sharedHostEntries settings known services).Perm
      (sharedHostEntries settings known other) := by
    unfold sharedHostEntries
    rw [SortedSet.ofList_eq_of_perm (hclaims.map Prod.fst)]
    exact List.Perm.flatMap_left _ fun claim _ => claimEntries_perm hclaims claim
  have hagrees := Graph.agrees_ofEntries hentries
  refine (Graph.hasFindings_ofEntries _).ext (Graph.hasFindings_ofEntries _) hagrees.isValid
    hagrees.references fun key => ?_
  have hcount := hentries.countP_eq fun entry => entry.key = key
  change (sharedHostGraph settings known services).findings key =
    (sharedHostGraph settings known other).findings key
  rw [findings_sharedHostGraph, findings_sharedHostGraph, hcount]

/-! ### The checks of a whole snapshot -/

namespace Snapshot

/-- Two snapshots hold the same objects, and the policies of each namespace in the same order. -/
structure Reorders (snapshot other : Snapshot) : Prop where
  /-- The same gateways. -/
  gateways : snapshot.gateways.Perm other.gateways
  /-- The same virtual services. -/
  virtualServices : snapshot.virtualServices.Perm other.virtualServices
  /-- The same destination rules. -/
  destinationRules : snapshot.destinationRules.Perm other.destinationRules
  /-- The same peer authentications. -/
  peerAuthentications : snapshot.peerAuthentications.Perm other.peerAuthentications
  /-- Those of a namespace in the same order. -/
  policiesOf : ∀ ns, snapshot.policiesOf ns = other.policiesOf ns

/-- Snapshots of permuted lists, with the policies of each namespace in the same order. -/
theorem reorders_ofObjects {objects other : List MeshObject} (h : objects.Perm other)
    (policies : ∀ ns,
      objects.filter (fun object => object.kind = .peerAuthentication ∧ object.ns = ns) =
        other.filter fun object => object.kind = .peerAuthentication ∧ object.ns = ns) :
    (ofObjects objects).Reorders (ofObjects other) where
  gateways := h.filter _
  virtualServices := h.filter _
  destinationRules := h.filter _
  peerAuthentications := h.filter _
  policiesOf ns := by
    rw [policiesOf_ofObjects, policiesOf_ofObjects]
    exact policies ns

variable {snapshot other : Snapshot}

/-- The same namespaces own objects. -/
theorem Reorders.namespaces (h : snapshot.Reorders other) :
    snapshot.namespaces = other.namespaces := by
  have hobjects : snapshot.objects.Perm other.objects :=
    ((h.gateways.append h.virtualServices).append h.destinationRules).append h.peerAuthentications
  unfold Snapshot.namespaces
  rw [namespaces_eq_of_perm hobjects]

end Snapshot

namespace MeshSettings

variable (settings : MeshSettings) {snapshot other : Snapshot}

/-- The graph of the virtual services does not depend on the order. -/
theorem virtualServiceFindings_eq_of_reorders (h : snapshot.Reorders other) :
    settings.virtualServiceFindings snapshot = settings.virtualServiceFindings other := by
  rw [virtualServiceFindings_eq, virtualServiceFindings_eq, h.namespaces]
  congr 1
  unfold byNamespace
  rw [namespaces_eq_of_perm h.virtualServices, List.map_map, List.map_map]
  exact List.map_congr_left fun ns _ =>
    sharedHostGraph_eq_of_perm (h.virtualServices.filter _) settings _

/-- The check of a rule looks at the policies only, in the order of each namespace. -/
theorem ruleChecks_eq_of_reorders (h : snapshot.Reorders other) (rule : MeshObject) :
    disabledRuleCheck? settings (snapshot.policies settings rule.ns) rule =
        disabledRuleCheck? settings (other.policies settings rule.ns) rule ∧
      requiredRuleCheck? settings (snapshot.policies settings rule.ns) rule =
        requiredRuleCheck? settings (other.policies settings rule.ns) rule := by
  unfold disabledRuleCheck? requiredRuleCheck? Snapshot.policies
  constructor <;> simp only [h.policiesOf]

/-- The graph of each kind says the same in every order. -/
theorem agrees_findingsOfKind (h : snapshot.Reorders other) (kind : Kind) :
    (settings.findingsOfKind snapshot kind).Agrees (settings.findingsOfKind other kind) := by
  cases kind with
  | gateway => exact agrees_gatewayGraph (byNamespace_flatten_perm h.gateways)
  | virtualService =>
    simp only [findingsOfKind, settings.virtualServiceFindings_eq_of_reorders h]
    exact .refl _
  | destinationRule =>
    -- a rule is checked against the policies alone, so permuted rules have permuted entries
    simp only [findingsOfKind, destinationRuleFindings_eq,
      (settings.ruleChecks_eq_of_reorders h _).1, (settings.ruleChecks_eq_of_reorders h _).2]
    exact Graph.agrees_ofEntries (h.destinationRules.flatMap_right _)
  | peerAuthentication =>
    -- a policy is checked against any of the rules, whichever comes first
    have hcheck : disabledPolicyCheck? settings snapshot.destinationRules =
        disabledPolicyCheck? settings other.destinationRules := by
      funext policy
      unfold disabledPolicyCheck?
      rw [h.destinationRules.any_eq]
    simp only [findingsOfKind, peerAuthenticationFindings, peerAuthenticationGraph, hcheck]
    exact Graph.agrees_ofEntries ((h.peerAuthentications.filter _).map _)

/-- The analysis says the same in every order. -/
theorem agrees_analyze (h : snapshot.Reorders other) :
    (settings.analyze snapshot).Agrees (settings.analyze other) := by
  rw [analyze_eq, analyze_eq]
  exact Graph.Agrees.foldl_merge (settings.agrees_findingsOfKind h)
    (settings.hasFindings_findingsOfKind snapshot) (settings.hasFindings_findingsOfKind other)
    Kind.all (.refl ∅) Graph.hasFindings_empty Graph.hasFindings_empty

/-- What the analysis knows about a virtual service is what the check of shared hosts does. -/
theorem get?_analyze_virtualService (objects : List MeshObject) {key : ObjectKey}
    (h : key.kind = .virtualService) :
    (settings.analyze (.ofObjects objects)).get? key =
      (settings.virtualServiceFindings (.ofObjects objects)).get? key := by
  have hfindings := settings.findings_analyze objects key
  have hreferences := fun x => @mem_references_analyze settings objects key x
  have hvalid := @isValid_analyze settings objects key
  have hfull := settings.hasFindings_findingsOfKind (.ofObjects objects) key.kind
  rw [h] at hfindings hreferences hvalid hfull
  rw [(settings.hasFindings_analyze _).get?_eq, hfindings, Bool.eq_iff_iff.2 hvalid,
    SortedSet.ext_mem hreferences]
  exact (hfull.get?_eq key).symm

end MeshSettings

/-- A snapshot may list its objects in any order in which the peer authentications of each namespace
keep theirs: the analysis lists the same objects with the same references and findings, these up to
their order, and has the very same entries for the virtual services. -/
theorem analyze_agrees_of_perm (settings : MeshSettings) (objects other : List MeshObject)
    (reordered : objects.Perm other)
    (policies : ∀ ns,
      objects.filter (fun object => object.kind = .peerAuthentication ∧ object.ns = ns) =
        other.filter fun object => object.kind = .peerAuthentication ∧ object.ns = ns) :
    let graph := settings.analyze (.ofObjects objects)
    let graphOther := settings.analyze (.ofObjects other)
    graph.Agrees graphOther ∧
      ∀ ns name, graph.get? ⟨.virtualService, ns, name⟩ =
        graphOther.get? ⟨.virtualService, ns, name⟩ := by
  intro graph graphOther
  have hreorders := Snapshot.reorders_ofObjects reordered policies
  refine ⟨settings.agrees_analyze hreorders, fun ns name => ?_⟩
  calc graph.get? ⟨.virtualService, ns, name⟩
    _ = (settings.virtualServiceFindings (.ofObjects objects)).get? ⟨.virtualService, ns, name⟩ :=
        settings.get?_analyze_virtualService objects rfl
    _ = (settings.virtualServiceFindings (.ofObjects other)).get? ⟨.virtualService, ns, name⟩ := by
        rw [settings.virtualServiceFindings_eq_of_reorders hreorders]
    _ = graphOther.get? ⟨.virtualService, ns, name⟩ :=
        (settings.get?_analyze_virtualService other rfl).symm

/-- Two policies of one namespace keep their order while two gateways swap theirs. The findings of a
gateway that both are in conflict with come in another order then. -/
theorem analyze_agrees_swapped_gateways :
    let policies := [namespacePolicy "on" "bookinfo" "STRICT",
      namespacePolicy "off" "bookinfo" "DISABLE"]
    let front := gatewayForHosts "front" [.string "reviews.com", .string "ratings.com"]
    let reviews := gatewayForHosts "reviews" [.string "reviews.com"]
    let ratings := gatewayForHosts "ratings" [.string "ratings.com"]
    let graph := MeshSettings.analyze {} (.ofObjects ([front, reviews, ratings] ++ policies))
    let graphOther := MeshSettings.analyze {} (.ofObjects (policies ++ [front, ratings, reviews]))
    let key : ObjectKey := ⟨.gateway, "bookinfo", "front"⟩
    graph.Agrees graphOther ∧ graph.findings key ≠ graphOther.findings key := by
  intro policies front reviews ratings graph graphOther key
  have hswap : [front, reviews, ratings].Perm [front, ratings, reviews] :=
    (List.Perm.swap ratings reviews []).cons front
  have hperm : ([front, reviews, ratings] ++ policies).Perm
      (policies ++ [front, ratings, reviews]) :=
    List.perm_append_comm.trans (hswap.append_left policies)
  refine ⟨(analyze_agrees_of_perm {} _ _ hperm fun ns => ?_).1, by decide⟩
  rw [List.filter_append, List.filter_append]
  simp [front, reviews, ratings, gatewayForHosts]

end MeshAudit

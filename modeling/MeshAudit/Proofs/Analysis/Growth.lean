import Mathlib.Algebra.Order.BigOperators.Group.Finset
import Mathlib.Algebra.Order.BigOperators.Group.List
import MeshAudit.Proofs.Analysis.Isolation
import MeshAudit.Proofs.Analysis.SnapshotOrder

/-!
# Growing snapshots

A snapshot grows by gateways, virtual services and destination rules in namespaces that it already
knows. No check takes back what it has found then: it goes through more objects and finds all that
it has found before. The policies stay as they are, so the checks against them have the same
outcome, and the namespaces stay as they are, so a host of a route leads where it led before.
-/

namespace MeshAudit

/-! ### Gateways -/

/-- A binding contributes at least as much beside more earlier ones. -/
theorem conflictEntries_sublist {earlier grown : List ScopedBinding} (h : earlier.Sublist grown)
    (b : ScopedBinding) : (conflictEntries earlier b).Sublist (conflictEntries grown b) :=
  (h.filter _).flatMap _

/-- More bindings behind more earlier ones contribute at least as much: those that were there before
still see each other. -/
theorem overlapEntries_sublist {earlier grown bindings other : List ScopedBinding}
    (hearlier : earlier.Sublist grown) (h : bindings.Sublist other) :
    (overlapEntries earlier bindings).Sublist (overlapEntries grown other) := by
  induction h generalizing earlier grown with
  | slnil => exact .slnil
  | cons b _ ih =>
    -- a new binding is one more earlier one for those behind it
    exact (ih (hearlier.trans (List.sublist_append_left _ _))).trans
      (List.sublist_append_right _ _)
  | cons_cons b _ ih =>
    exact (conflictEntries_sublist hearlier b).append (ih (hearlier.append (.refl [b])))

/-- The groups of different namespaces hold, together, the objects of these namespaces. -/
theorem flatMap_filter_ns_perm {spaces : List String} (hnodup : spaces.Nodup)
    (objects : List MeshObject) :
    (spaces.flatMap fun space => objects.filter (MeshObject.ns · = space)).Perm
      (objects.filter (MeshObject.ns · ∈ spaces)) := by
  induction spaces with
  | nil => simp
  | cons space rest ih =>
    obtain ⟨hnot, hrest⟩ := List.nodup_cons.1 hnodup
    have hsplit := List.filter_append_perm (fun object : MeshObject => decide (object.ns = space))
      (objects.filter (MeshObject.ns · ∈ space :: rest))
    have hfirst : (objects.filter (MeshObject.ns · ∈ space :: rest)).filter
        (fun object => object.ns = space) = objects.filter (MeshObject.ns · = space) := by
      rw [List.filter_filter]
      refine List.filter_congr fun object _ => ?_
      by_cases hns : object.ns = space <;> simp [hns]
    have hothers : (objects.filter (MeshObject.ns · ∈ space :: rest)).filter
        (fun object => !decide (object.ns = space)) = objects.filter (MeshObject.ns · ∈ rest) := by
      rw [List.filter_filter]
      refine List.filter_congr fun object _ => ?_
      by_cases hns : object.ns = space <;> simp [hns, hnot]
    rw [hfirst, hothers] at hsplit
    exact ((ih hrest).append_left _).trans hsplit

/-- Grouping by namespace loses no object and takes none twice. -/
theorem byNamespace_flatten_perm_self (objects : List MeshObject) :
    (byNamespace objects).flatten.Perm objects := by
  have hall : objects.filter
      (MeshObject.ns · ∈ (SortedSet.ofList (objects.map MeshObject.ns)).toList) = objects := by
    refine List.filter_eq_self.2 fun object hmem => ?_
    exact decide_eq_true (SortedSet.mem_ofList.2 (List.mem_map_of_mem hmem))
  have hperm := flatMap_filter_ns_perm
    (SortedSet.nodup_toList (SortedSet.ofList (objects.map MeshObject.ns))) objects
  rwa [hall, List.flatMap_def] at hperm

namespace Graph

/-- A graph of more entries has at least the findings of one of fewer. -/
theorem findings_ofEntries_sublist {entries grown : List Entry} (h : entries.Sublist grown)
    (key : ObjectKey) :
    ((ofEntries entries).findings key).Sublist ((ofEntries grown).findings key) := by
  rw [findings_ofEntries, findings_ofEntries]
  exact (h.filter _).flatMap _

/-- A graph of more entries has at least the references of one of fewer. -/
theorem mem_references_ofEntries_of_sublist {entries grown : List Entry}
    (h : entries.Sublist grown) {key x : ObjectKey} (hx : x ∈ (ofEntries entries).references key) :
    x ∈ (ofEntries grown).references key := by
  rw [mem_references_ofEntries] at hx ⊢
  obtain ⟨entry, hmem, hentry⟩ := hx
  exact ⟨entry, h.subset hmem, hentry⟩

end Graph

/-! ### Virtual services -/

section

variable {settings : MeshSettings} {known : List String} {services grown : List MeshObject}

/-- A claim keeps the conflicts that it takes part in. -/
theorem conflictCount_le (h : services.Sublist grown) (claim : HostClaim) :
    conflictCount settings known services claim ≤ conflictCount settings known grown claim := by
  have hstep : ∀ {p q : Prop} [Decidable p] [Decidable q], (p → q) →
      (if p then 1 else 0) ≤ if q then 1 else 0 := by
    intro p q _ _ himp
    split <;> split <;> simp_all
  exact Nat.add_le_add (hstep (IsShared.grow h)) (hstep (IsShadowedNs.grow h))

/-- A virtual service keeps its warnings. -/
theorem findings_sharedHostGraph_sublist (h : services.Sublist grown) (key : ObjectKey) :
    ((sharedHostGraph settings known services).findings key).Sublist
      ((sharedHostGraph settings known grown).findings key) := by
  rw [findings_sharedHostGraph, findings_sharedHostGraph, List.replicate_sublist_replicate,
    countP_sharedHostEntries, countP_sharedHostEntries]
  have hservice : ∀ service : MeshObject,
      ∑ claim ∈ madeClaims settings known services, occurrences settings known service claim *
          conflictCount settings known services claim ≤
        ∑ claim ∈ madeClaims settings known grown, occurrences settings known service claim *
          conflictCount settings known grown claim := by
    intro service
    refine (Finset.sum_le_sum fun claim _ => ?_).trans
      (Finset.sum_le_sum_of_subset (madeClaims_subset h))
    exact Nat.mul_le_mul_left _ (conflictCount_le h claim)
  refine (List.sum_le_sum fun service _ => hservice service).trans ?_
  exact ((h.filter _).map _).sum_le_sum fun _ _ => Nat.zero_le _

/-- A virtual service keeps its references. -/
theorem mem_references_sharedHostGraph_grow (h : services.Sublist grown) {key x : ObjectKey}
    (hx : x ∈ (sharedHostGraph settings known services).references key) :
    x ∈ (sharedHostGraph settings known grown).references key := by
  rw [mem_references_sharedHostGraph] at hx ⊢
  obtain ⟨hne, ⟨claim, hs, hkey, hother⟩ |
    ⟨ns, hs, ⟨claim, hns, hkey⟩, other, hother, hxOther⟩⟩ := hx
  · exact ⟨hne, .inl ⟨claim, hs.grow h, hkey.grow h, hother.grow h⟩⟩
  · exact ⟨hne, .inr ⟨ns, hs.grow h, ⟨claim, hns, hkey.grow h⟩, other, hother, hxOther.grow h⟩⟩

end

/-! ### The checks of a whole snapshot -/

namespace Snapshot

/-- A namespace is known when an object lives there. -/
theorem mem_namespaces {snapshot : Snapshot} {space : String} :
    space ∈ snapshot.namespaces ↔ ∃ object ∈ snapshot.objects, object.ns = space := by
  have hset : space ∈ SortedSet.ofList (snapshot.objects.map MeshObject.ns) ↔
      space ∈ snapshot.objects.map MeshObject.ns := SortedSet.mem_ofList
  exact hset.trans List.mem_map

/-- Another snapshot has more gateways, virtual services and destination rules, all of them in
namespaces that this one knows, and no other policies. What was there keeps its order. -/
structure Grows (snapshot other : Snapshot) : Prop where
  /-- More gateways. -/
  gateways : snapshot.gateways.Sublist other.gateways
  /-- More virtual services. -/
  virtualServices : snapshot.virtualServices.Sublist other.virtualServices
  /-- More destination rules. -/
  destinationRules : snapshot.destinationRules.Sublist other.destinationRules
  /-- The same peer authentications. -/
  peerAuthentications : snapshot.peerAuthentications = other.peerAuthentications
  /-- No further namespace. -/
  namespaces : ∀ object ∈ other.objects, ∃ owner ∈ snapshot.objects, owner.ns = object.ns

variable {snapshot other : Snapshot}

/-- No object is lost. -/
theorem Grows.objects (h : snapshot.Grows other) : snapshot.objects.Sublist other.objects :=
  ((h.gateways.append h.virtualServices).append h.destinationRules).append
    (h.peerAuthentications ▸ .refl _)

/-- The same namespaces own objects. -/
theorem Grows.namespaces_eq (h : snapshot.Grows other) :
    snapshot.namespaces = other.namespaces := by
  refine MeshSettings.namespaces_eq_of_mem_iff fun space => ?_
  rw [mem_namespaces, mem_namespaces]
  constructor
  · rintro ⟨object, hmem, hns⟩
    exact ⟨object, h.objects.subset hmem, hns⟩
  · rintro ⟨object, hmem, rfl⟩
    exact h.namespaces object hmem

/-- The same policies apply in every namespace. -/
theorem Grows.samePolicies (h : snapshot.Grows other) (settings : MeshSettings) (ns : String) :
    snapshot.SamePolicies settings ns other := by
  constructor <;> rw [Snapshot.policiesOf, Snapshot.policiesOf, h.peerAuthentications]

end Snapshot

namespace MeshSettings

variable (settings : MeshSettings) {snapshot other : Snapshot}

/-- A policy that fails beside some rules fails beside more of them. -/
theorem disabledPolicyCheck?_sublist {rules grown : List MeshObject} (h : rules.Sublist grown)
    (policy : MeshObject) :
    (disabledPolicyCheck? settings rules policy).toList.Sublist
      (disabledPolicyCheck? settings grown policy).toList := by
  unfold disabledPolicyCheck?
  split
  next hfails =>
    rw [Bool.and_eq_true, List.any_eq_true] at hfails
    obtain ⟨hoff, rule, hmem, hrequires⟩ := hfails
    rw [if_pos (Bool.and_eq_true_iff.2 ⟨hoff, List.any_eq_true.2 ⟨rule, h.subset hmem, hrequires⟩⟩)]
  next => exact List.nil_sublist _

/-- The gateways could as well be checked without grouping them by namespace. -/
theorem agrees_gatewayFindings (snapshot : Snapshot) :
    (settings.gatewayFindings snapshot).Agrees (gatewayGraph snapshot.gateways) :=
  agrees_gatewayGraph (byNamespace_flatten_perm_self snapshot.gateways)

/-- The findings of each kind stay. -/
theorem findings_findingsOfKind_subperm (h : snapshot.Grows other) (kind : Kind)
    (key : ObjectKey) :
    ((settings.findingsOfKind snapshot kind).findings key).Subperm
      ((settings.findingsOfKind other kind).findings key) := by
  cases kind with
  | gateway =>
    have hbefore := (settings.agrees_gatewayFindings snapshot).findings key
    have hafter := (settings.agrees_gatewayFindings other).findings key
    have hgrown := Graph.findings_ofEntries_sublist
      (overlapEntries_sublist (.refl []) (h.gateways.flatMap scopedBindings)) key
    exact (hbefore.subperm.trans hgrown.subperm).trans hafter.symm.subperm
  | virtualService =>
    change ((settings.virtualServiceFindings snapshot).findings key).Subperm
      ((settings.virtualServiceFindings other).findings key)
    rw [findings_virtualServiceFindings_of_ns, findings_virtualServiceFindings_of_ns,
      h.namespaces_eq]
    exact (findings_sharedHostGraph_sublist (h.virtualServices.filter _) key).subperm
  | destinationRule =>
    change ((settings.destinationRuleFindings snapshot).findings key).Subperm
      ((settings.destinationRuleFindings other).findings key)
    rw [findings_destinationRuleFindings, findings_destinationRuleFindings]
    simp only [settings.ruleFailure?_eq_of_samePolicies (h.samePolicies settings _)]
    exact ((h.destinationRules.filter _).flatMap _).subperm
  | peerAuthentication =>
    change ((settings.peerAuthenticationFindings snapshot).findings key).Subperm
      ((settings.peerAuthenticationFindings other).findings key)
    rw [findings_peerAuthenticationFindings, findings_peerAuthenticationFindings,
      h.peerAuthentications]
    refine List.Sublist.subperm (List.Sublist.flatMap_right _ fun policy _ => ?_)
    exact (settings.disabledPolicyCheck?_sublist h.destinationRules policy).map _

/-- The references of each kind stay. -/
theorem mem_references_findingsOfKind_grow (h : snapshot.Grows other) {kind : Kind}
    {key x : ObjectKey} (hx : x ∈ (settings.findingsOfKind snapshot kind).references key) :
    x ∈ (settings.findingsOfKind other kind).references key := by
  cases kind with
  | gateway =>
    change x ∈ (settings.gatewayFindings snapshot).references key at hx
    change x ∈ (settings.gatewayFindings other).references key
    rw [(settings.agrees_gatewayFindings _).references] at hx ⊢
    exact Graph.mem_references_ofEntries_of_sublist
      (overlapEntries_sublist (.refl []) (h.gateways.flatMap scopedBindings)) hx
  | virtualService =>
    change x ∈ (settings.virtualServiceFindings snapshot).references key at hx
    change x ∈ (settings.virtualServiceFindings other).references key
    rw [mem_references_virtualServiceFindings_of_ns] at hx ⊢
    rw [h.namespaces_eq] at hx
    exact mem_references_sharedHostGraph_grow (h.virtualServices.filter _) hx
  | destinationRule =>
    exact absurd hx (settings.not_mem_references_destinationRuleFindings snapshot key x)
  | peerAuthentication =>
    exact absurd hx (settings.not_mem_references_peerAuthenticationFindings snapshot key x)

end MeshSettings

/-- Gateways, virtual services and destination rules that join a snapshot, anywhere in it but in
namespaces that it knows, leave every object listed that was, with all its findings, as often each,
and all its references, and an invalid one invalid. -/
theorem analyze_within_of_grows (settings : MeshSettings) (objects others : List MeshObject)
    (grows : (Snapshot.ofObjects objects).Grows (.ofObjects others)) :
    (settings.analyze (.ofObjects objects)).Within (settings.analyze (.ofObjects others)) := by
  refine .of_sound (settings.sound_analyze _) (settings.sound_analyze _) (fun key => ?_)
    fun key x hx => ?_
  · rw [settings.findings_analyze, settings.findings_analyze]
    exact settings.findings_findingsOfKind_subperm grows key.kind key
  · rw [settings.mem_references_analyze] at hx ⊢
    exact settings.mem_references_findingsOfKind_grow grows hx

/-- A gateway between two that are in conflict, a route for a whole namespace and a rule against its
policy leave the conflict as it was and bring findings of their own. -/
theorem analyze_within_grown_bookinfo :
    let front := gatewayForHosts "front" [.string "reviews.com"]
    let spare := gatewayForHosts "spare" [.string "reviews.com"]
    let reviews := gatewayRoute "reviews" "bookinfo" [] ["reviews"]
    let policy := namespacePolicy "on" "bookinfo" "STRICT"
    let snapshot := Snapshot.ofObjects [front, spare, reviews, policy]
    let other := Snapshot.ofObjects [front, gatewayForHosts "middle" [.string "*.com"], spare,
      gatewayRoute "all" "bookinfo" [] ["*"], reviews,
      hostRule "plain" "bookinfo" "*.bookinfo.svc.cluster.local" "DISABLE", policy]
    let graph := MeshSettings.analyze {} snapshot
    let grown := MeshSettings.analyze {} other
    graph.Within grown ∧ graph.keys.length = 2 ∧ grown.keys.length = 6 := by
  intro front spare reviews policy snapshot other graph grown
  have hns : ∀ space ∈ other.objects.map MeshObject.ns, space = front.ns := by decide
  refine ⟨analyze_within_of_grows {} _ _ ⟨?_, ?_, ?_, rfl, fun object hmem => ?_⟩, by decide,
    by decide⟩
  · exact .cons_cons front (.cons _ (.cons_cons spare .slnil))
  · exact .cons _ (.cons_cons reviews .slnil)
  · exact List.nil_sublist _
  · exact ⟨front, .head _, (hns _ (List.mem_map_of_mem hmem)).symm⟩

end MeshAudit

import MeshAudit.Proofs.Analysis.Growth
import MeshAudit.Proofs.Route.Meeting
import MeshAudit.Proofs.Route.Trimming
import MeshAudit.Proofs.Snapshot.Loading

/-!
# Objects without information

Some objects say nothing: a policy without a mode, a rule without a mode or for a single service, a
gateway without a host and a route without one. They may be left out of a snapshot, and idle items
out of the lists of a virtual service, as long as the namespaces stay known. Every scan skips such
an object: it neither ends a search nor counts as a policy, and takes no place from another one.
-/

namespace MeshAudit

/-! ### Lists that lose silent members -/

/-- What is read off the members of two sets is the same when they share the members that it is read
off from. -/
theorem SortedSet.flatMap_eq_of_support {α β : Type} [Ord α] [Std.OrientedOrd α] {s t : SortedSet α}
    {f : α → List β} (inLeft : ∀ x, f x ≠ [] → x ∈ s) (inRight : ∀ x, f x ≠ [] → x ∈ t) :
    s.toList.flatMap f = t.toList.flatMap f := by
  have hsupport : ∀ xs : List α,
      xs.flatMap f = (xs.filter fun x => !(f x).isEmpty).flatMap f := by
    intro xs
    rw [flatMap_filter]
    refine List.flatMap_congr fun x _ => ?_
    cases f x <;> rfl
  rw [hsupport s.toList, hsupport t.toList]
  refine congrArg (List.flatMap f) (eq_of_pairwise_of_mem_iff (fun a b hab hba => ?_)
    (s.sorted.filter _) (t.sorted.filter _) fun x => ?_)
  · exact Std.OrientedCmp.not_lt_of_lt hab hba
  · rw [List.mem_filter, List.mem_filter]
    refine and_congr_left fun hx => ?_
    have hne : f x ≠ [] := by simpa using hx
    exact iff_of_true (inLeft x hne) (inRight x hne)

/-! ### Leaving objects out -/

section

variable (settings : MeshSettings) (known : List String)

/-- An object that says nothing to the analysis. -/
def Uninformative (object : MeshObject) : Prop :=
  match object.kind with
  | .gateway => hostBindings object = []
  | .virtualService => resolvedHosts settings known object = []
  | .destinationRule => (∀ ns, ¬ AddressesAll settings ns object) ∨
      ∀ word, object.bodyText? ["trafficPolicy", "tls", "mode"] = some word → word = ""
  | .peerAuthentication => peerAuthenticationMode object = .unset

/-- A policy sets no mode when it is for some workloads only, when it has no block for mTLS, or when
the mode there is no text or an empty one. A block without a mode sets one. -/
theorem peerAuthenticationMode_eq_unset_iff {policy : MeshObject} :
    peerAuthenticationMode policy = .unset ↔
      (∃ label labels, policy.body? ["selector", "matchLabels"] = some (.object (label :: labels))) ∨
      (∀ fields, policy.body? ["mtls"] ≠ some (.object fields)) ∨
      ∃ fields mode, policy.body? ["mtls"] = some (.object fields) ∧
        fields.lookup "mode" = some mode ∧ ∀ word, mode.asString? = some word → word = "" := by
  unfold peerAuthenticationMode
  split
  next label labels hselector => simp [hselector]
  next hselector =>
    have hnone : ¬ ∃ label labels,
        policy.body? ["selector", "matchLabels"] = some (.object (label :: labels)) := by
      rintro ⟨label, labels, h⟩
      exact hselector label labels h
    split
    next fields hblock =>
      split
      next mode hmode =>
        cases hword : mode.asString? with
        | none => simp [hblock, hmode, hword]
        | some word => simp [hblock, hmode, hword, MtlsMode.ofWord_eq_unset, hnone]
      next hmode => simp [hblock, hmode, hnone]
    next hblock => exact iff_of_true rfl (.inr (.inl fun fields h => hblock fields h))

/-- Some of the objects that say nothing are left out of a list, and idle items out of some virtual
services. -/
inductive Pruned : List MeshObject → List MeshObject → Prop
  /-- Nothing is left to decide on. -/
  | nil : Pruned [] []
  /-- An object stays as it is. -/
  | keep (object : MeshObject) {objects others : List MeshObject} (rest : Pruned objects others) :
      Pruned (object :: objects) (object :: others)
  /-- An object is left out. -/
  | drop {object : MeshObject} {objects others : List MeshObject}
      (silent : Uninformative settings known object) (rest : Pruned objects others) :
      Pruned (object :: objects) others
  /-- A virtual service loses idle items. -/
  | trim {service trimmed : MeshObject} {objects others : List MeshObject}
      (kind : service.kind = .virtualService) (trims : Trims settings known service trimmed)
      (rest : Pruned objects others) : Pruned (service :: objects) (trimmed :: others)

end

variable {settings : MeshSettings} {known : List String} {objects others : List MeshObject}

/-- What is read off the objects of a kind stays the same when nothing is read off those that say
nothing, and idle items make no difference. -/
theorem Pruned.flatMap_ofKind {β : Type} (pruned : Pruned settings known objects others)
    (kind : Kind) {f : MeshObject → List β}
    (silent : ∀ object, object.kind = kind → Uninformative settings known object → f object = [])
    (trims : kind ≠ .virtualService ∨ ∀ service trimmed, Trims settings known service trimmed →
      f trimmed = f service) :
    ((Snapshot.ofObjects objects).ofKind kind).flatMap f =
      ((Snapshot.ofObjects others).ofKind kind).flatMap f := by
  rw [Snapshot.ofKind_ofObjects, Snapshot.ofKind_ofObjects, flatMap_filter, flatMap_filter]
  induction pruned with
  | nil => rfl
  | keep object _ ih => rw [List.flatMap_cons, List.flatMap_cons, ih]
  | @drop object _ _ hsilent _ ih =>
    rw [List.flatMap_cons, ih]
    by_cases hkind : object.kind = kind
    · simp [hkind, silent object hkind hsilent]
    · simp [hkind]
  | @trim service trimmed _ _ hkind htrims _ ih =>
    have hsame : trimmed.kind = service.kind := congrArg ObjectKey.kind htrims.ofObject_eq
    rw [List.flatMap_cons, List.flatMap_cons, ih, hsame, hkind]
    rcases trims with hother | hread
    · simp [hother.symm]
    · rw [hread service trimmed htrims]

/-- No namespace joins those that own objects. -/
theorem Pruned.map_ns_sublist (pruned : Pruned settings known objects others) :
    (others.map MeshObject.ns).Sublist (objects.map MeshObject.ns) := by
  induction pruned with
  | nil => exact .slnil
  | keep object _ ih => exact ih.cons_cons object.ns
  | @drop object _ _ _ _ ih => exact ih.cons object.ns
  | @trim service trimmed _ _ _ htrims _ ih =>
    have hns : trimmed.ns = service.ns := congrArg ObjectKey.ns htrims.ofObject_eq
    rw [List.map_cons, List.map_cons, hns]
    exact ih.cons_cons service.ns

/-- The same namespaces are known as long as each owns an object. -/
theorem Pruned.namespaces_eq (pruned : Pruned settings known objects others)
    (owned : ∀ object ∈ objects, ∃ owner ∈ others, owner.ns = object.ns) :
    (Snapshot.ofObjects objects).namespaces = (Snapshot.ofObjects others).namespaces := by
  refine MeshSettings.namespaces_eq_of_mem_iff fun space => ?_
  simp only [Snapshot.mem_namespaces, (Snapshot.objects_ofObjects_perm _).mem_iff]
  constructor
  · rintro ⟨object, hmem, rfl⟩
    exact owned object hmem
  · intro hspace
    exact List.mem_map.1 (pruned.map_ns_sublist.subset (List.mem_map.2 hspace))

/-! ### Gateways -/

/-- The bindings of all gateways, grouped by namespace, stay the same. -/
theorem Pruned.flatMap_scopedBindings (pruned : Pruned settings known objects others) :
    (byNamespace (Snapshot.ofObjects objects).gateways).flatten.flatMap scopedBindings =
      (byNamespace (Snapshot.ofObjects others).gateways).flatten.flatMap scopedBindings := by
  have hns : ∀ ns, ((Snapshot.ofObjects objects).gateways.filter (MeshObject.ns · = ns)).flatMap
        scopedBindings =
      ((Snapshot.ofObjects others).gateways.filter (MeshObject.ns · = ns)).flatMap
        scopedBindings := by
    intro ns
    rw [flatMap_filter, flatMap_filter]
    refine pruned.flatMap_ofKind .gateway (fun gateway hkind hsilent => ?_) (.inl (by decide))
    have hnone : hostBindings gateway = [] := by simpa [Uninformative, hkind] using hsilent
    have hempty : scopedBindings gateway = [] :=
      List.map_eq_nil_iff.1 ((map_binding_scopedBindings gateway).trans hnone)
    simp [hempty]
  have howns : ∀ (gateways : List MeshObject) (ns : String),
      (gateways.filter (MeshObject.ns · = ns)).flatMap scopedBindings ≠ [] →
        ns ∈ SortedSet.ofList (gateways.map MeshObject.ns) := by
    intro gateways ns hne
    obtain ⟨binding, hbinding⟩ := List.exists_mem_of_ne_nil _ hne
    obtain ⟨gateway, hgateway, -⟩ := List.mem_flatMap.1 hbinding
    obtain ⟨hmem, hspace⟩ := List.mem_filter.1 hgateway
    exact SortedSet.mem_ofList.2 (List.mem_map.2 ⟨gateway, hmem, by simpa using hspace⟩)
  simp only [byNamespace, ← List.flatMap_def, List.flatMap_assoc, hns]
  refine SortedSet.flatMap_eq_of_support (fun ns hne => ?_) (howns _)
  exact howns _ ns ((hns ns).trans_ne hne)

/-- The graph of the gateways stays the same. -/
theorem Pruned.gatewayFindings_eq (pruned : Pruned settings known objects others) :
    settings.gatewayFindings (.ofObjects objects) = settings.gatewayFindings (.ofObjects others) := by
  rw [MeshSettings.gatewayFindings, MeshSettings.gatewayFindings, gatewayGraph, gatewayGraph,
    pruned.flatMap_scopedBindings]

/-! ### Virtual services -/

/-- The claims of the virtual services of a namespace stay the same, and so do their conflicts. -/
theorem Pruned.sharedHostGraph_eq (pruned : Pruned settings known objects others) (ns : String) :
    sharedHostGraph settings known
        ((Snapshot.ofObjects objects).virtualServices.filter (MeshObject.ns · = ns)) =
      sharedHostGraph settings known
        ((Snapshot.ofObjects others).virtualServices.filter (MeshObject.ns · = ns)) := by
  have hclaims : ((Snapshot.ofObjects objects).virtualServices.filter
        (MeshObject.ns · = ns)).flatMap (hostClaims settings known) =
      ((Snapshot.ofObjects others).virtualServices.filter
        (MeshObject.ns · = ns)).flatMap (hostClaims settings known) := by
    rw [flatMap_filter, flatMap_filter]
    refine pruned.flatMap_ofKind .virtualService (fun service hkind hsilent => ?_)
      (.inr fun service trimmed htrims => ?_)
    · have hnone : resolvedHosts settings known service = [] := by
        simpa [Uninformative, hkind] using hsilent
      simp [hostClaims, hnone]
    · have hspace : trimmed.ns = service.ns := congrArg ObjectKey.ns htrims.ofObject_eq
      rw [hspace, htrims.hostClaims_eq]
  simp only [sharedHostGraph, hclaims]

/-! ### Policies and rules -/

/-- Two snapshots show the same modes to every search: it finds the same one among the policies of a
namespace, and among the rules for a namespace or for the mesh. A search never ends where no mode is
set. -/
structure Snapshot.SameModes (settings : MeshSettings) (snapshot other : Snapshot) : Prop where
  /-- Among the policies of a namespace. -/
  policies : ∀ ns (p : MtlsMode → Bool), p .unset = false →
    ((snapshot.policiesOf ns).map peerAuthenticationMode).find? p =
      ((other.policiesOf ns).map peerAuthenticationMode).find? p
  /-- Among the rules for a namespace or for the mesh. -/
  rules : ∀ host, (host = meshWideHost ∨ ∃ ns, host = settings.namespaceWideHost ns) →
    ∀ p : MtlsMode → Bool, p .unset = false →
      (snapshot.destinationRules.map (destinationRuleMode host)).find? p =
        (other.destinationRules.map (destinationRuleMode host)).find? p

/-- A search through modes finds the first that passes the test. -/
theorem find?_map_eq_head? (read : MeshObject → MtlsMode) (p : MtlsMode → Bool)
    (objects : List MeshObject) :
    (objects.map read).find? p = (objects.flatMap fun object => [read object].filter p).head? := by
  rw [← List.head?_filter, List.map_eq_flatMap, List.filter_flatMap]

/-- A policy that says nothing sets no mode. -/
theorem peerAuthenticationMode_of_uninformative {policy : MeshObject}
    (kind : policy.kind = .peerAuthentication) (silent : Uninformative settings known policy) :
    peerAuthenticationMode policy = .unset := by
  simpa only [Uninformative, kind] using silent

/-- A rule that says nothing sets no mode, for no namespace and not for the mesh. -/
theorem destinationRuleMode_of_uninformative {rule : MeshObject} {host : String}
    (kind : rule.kind = .destinationRule) (silent : Uninformative settings known rule)
    (wide : host = meshWideHost ∨ ∃ ns, host = settings.namespaceWideHost ns) :
    destinationRuleMode host rule = .unset := by
  have hsilent : (∀ ns, ¬ AddressesAll settings ns rule) ∨
      ∀ word, rule.bodyText? ["trafficPolicy", "tls", "mode"] = some word → word = "" := by
    simpa only [Uninformative, kind] using silent
  unfold destinationRuleMode
  split
  next hhost =>
    rcases hsilent with hnarrow | hmodeless
    · rcases wide with rfl | ⟨ns, rfl⟩
      · exact absurd (.inr hhost) (hnarrow "")
      · exact absurd (.inl hhost) (hnarrow ns)
    · cases hmode : rule.bodyText? ["trafficPolicy", "tls", "mode"] with
      | none => rfl
      | some word => exact MtlsMode.ofWord_eq_unset.2 (hmodeless word hmode)
  next => rfl

/-- Without objects that say nothing every search finds the mode that it found with them. -/
theorem Pruned.sameModes (pruned : Pruned settings known objects others) :
    (Snapshot.ofObjects objects).SameModes settings (.ofObjects others) where
  policies ns p hp := by
    rw [find?_map_eq_head?, find?_map_eq_head?, Snapshot.policiesOf, Snapshot.policiesOf,
      flatMap_filter, flatMap_filter]
    refine congrArg List.head? (pruned.flatMap_ofKind .peerAuthentication
      (fun policy hkind hsilent => ?_) (.inl (by decide)))
    simp [peerAuthenticationMode_of_uninformative hkind hsilent, hp]
  rules host wide p hp := by
    rw [find?_map_eq_head?, find?_map_eq_head?]
    refine congrArg List.head? (pruned.flatMap_ofKind .destinationRule
      (fun rule hkind hsilent => ?_) (.inl (by decide)))
    simp [destinationRuleMode_of_uninformative hkind hsilent wide, hp]

namespace Snapshot.SameModes

variable {snapshot other : Snapshot} (same : snapshot.SameModes settings other)

include same

/-- Some policy of a namespace has a mode of a sort in both snapshots or in none. -/
theorem any_policies (ns : String) {p : MtlsMode → Bool} (hp : p .unset = false) :
    ((snapshot.policiesOf ns).any fun policy => p (peerAuthenticationMode policy)) =
      (other.policiesOf ns).any fun policy => p (peerAuthenticationMode policy) := by
  have h := congrArg Option.isSome (same.policies ns p hp)
  simpa [List.isSome_find?, Function.comp_def] using h

/-- Some rule requires mTLS for a host in both snapshots or in none. -/
theorem any_rules {host : String}
    (wide : host = meshWideHost ∨ ∃ ns, host = settings.namespaceWideHost ns) :
    (snapshot.destinationRules.any fun rule => (destinationRuleMode host rule).requiresMutual) =
      other.destinationRules.any fun rule => (destinationRuleMode host rule).requiresMutual := by
  have h := congrArg Option.isSome (same.rules host wide MtlsMode.requiresMutual rfl)
  simpa [List.isSome_find?, Function.comp_def] using h

/-- A rule fails the same check. -/
theorem ruleFailure?_eq (rule : MeshObject) :
    ruleFailure? settings snapshot rule = ruleFailure? settings other rule := by
  have hfirst := same.policies rule.ns (fun mode => mode = .strict || mode = .permissive) rfl
  have hmesh := same.any_policies settings.rootNamespace (p := fun mode => mode = .strict) rfl
  have hown := same.any_policies rule.ns (p := MtlsMode.isSet) rfl
  have hroot := same.any_policies settings.rootNamespace (p := MtlsMode.isSet) rfl
  unfold ruleFailure? disabledRuleCheck? requiredRuleCheck? Snapshot.policies
  simp only [List.any_append]
  rw [hfirst, hmesh, hown, hroot]

/-- A policy fails its check in both snapshots or in none. -/
theorem disabledPolicyCheck?_eq (policy : MeshObject) :
    disabledPolicyCheck? settings snapshot.destinationRules policy =
      disabledPolicyCheck? settings other.destinationRules policy := by
  have hns := same.any_rules (.inr ⟨policy.ns, rfl⟩)
  have hmesh := same.any_rules (.inl rfl)
  have hor : ∀ (p q : MeshObject → Bool) (rules : List MeshObject),
      (rules.any fun rule => p rule || q rule) = (rules.any p || rules.any q) := by
    intro p q rules
    rw [Bool.eq_iff_iff]
    simp only [Bool.or_eq_true, List.any_eq_true, ← exists_or, ← and_or_left]
  simp only [disabledPolicyCheck?, namespaceWideMode, meshWideMode, hor, hns, hmesh]

/-- Every namespace has the same report. -/
theorem mtlsReport_eq (ns : String) :
    settings.mtlsReport snapshot ns = settings.mtlsReport other ns := by
  have hpolicy : ∀ space,
      MtlsMode.firstSet ((snapshot.policiesOf space).map peerAuthenticationMode) =
        MtlsMode.firstSet ((other.policiesOf space).map peerAuthenticationMode) := fun space =>
    congrArg (Option.getD · MtlsMode.unset) (same.policies space MtlsMode.isSet rfl)
  have hrule : ∀ host, (host = meshWideHost ∨ ∃ space, host = settings.namespaceWideHost space) →
      MtlsMode.firstSet (snapshot.destinationRules.map (destinationRuleMode host)) =
        MtlsMode.firstSet (other.destinationRules.map (destinationRuleMode host)) :=
    fun host wide => congrArg (Option.getD · MtlsMode.unset) (same.rules host wide MtlsMode.isSet rfl)
  exact settings.mtlsReport_eq_of_modes (hpolicy ns) (hpolicy settings.rootNamespace)
    (hrule _ (.inr ⟨ns, rfl⟩)) (hrule _ (.inl rfl))

end Snapshot.SameModes

/-! ### The whole analysis -/

/-- The findings of each kind stay the same. -/
theorem Pruned.findings_findingsOfKind
    (pruned : Pruned settings (Snapshot.ofObjects objects).namespaces objects others)
    (owned : ∀ object ∈ objects, ∃ owner ∈ others, owner.ns = object.ns) (kind : Kind)
    (key : ObjectKey) :
    (settings.findingsOfKind (.ofObjects objects) kind).findings key =
      (settings.findingsOfKind (.ofObjects others) kind).findings key := by
  have hsame := pruned.sameModes
  cases kind with
  | gateway => exact congrArg (Graph.findings · key) pruned.gatewayFindings_eq
  | virtualService =>
    change (settings.virtualServiceFindings _).findings key =
      (settings.virtualServiceFindings _).findings key
    rw [MeshSettings.findings_virtualServiceFindings_of_ns,
      MeshSettings.findings_virtualServiceFindings_of_ns, ← pruned.namespaces_eq owned,
      pruned.sharedHostGraph_eq]
  | destinationRule =>
    change (settings.destinationRuleFindings _).findings key =
      (settings.destinationRuleFindings _).findings key
    rw [MeshSettings.findings_destinationRuleFindings,
      MeshSettings.findings_destinationRuleFindings, flatMap_filter, flatMap_filter]
    simp only [hsame.ruleFailure?_eq]
    refine pruned.flatMap_ofKind .destinationRule (fun rule hkind hsilent => ?_) (.inl (by decide))
    have hunset : namespaceWideMode settings rule.ns rule = .unset :=
      destinationRuleMode_of_uninformative hkind hsilent (.inr ⟨rule.ns, rfl⟩)
    have hpasses : ruleFailure? settings (.ofObjects others) rule = none := by
      simp [ruleFailure?, disabledRuleCheck?, requiredRuleCheck?, hunset, MtlsMode.requiresMutual]
    simp [hpasses]
  | peerAuthentication =>
    change (settings.peerAuthenticationFindings _).findings key =
      (settings.peerAuthenticationFindings _).findings key
    rw [MeshSettings.findings_peerAuthenticationFindings,
      MeshSettings.findings_peerAuthenticationFindings, flatMap_filter, flatMap_filter,
      flatMap_filter, flatMap_filter]
    simp only [hsame.disabledPolicyCheck?_eq]
    refine pruned.flatMap_ofKind .peerAuthentication (fun policy hkind hsilent => ?_)
      (.inl (by decide))
    simp [disabledPolicyCheck?, peerAuthenticationMode_of_uninformative hkind hsilent]

/-- The references of each kind stay the same. -/
theorem Pruned.mem_references_findingsOfKind
    (pruned : Pruned settings (Snapshot.ofObjects objects).namespaces objects others)
    (owned : ∀ object ∈ objects, ∃ owner ∈ others, owner.ns = object.ns) (kind : Kind)
    (key x : ObjectKey) :
    x ∈ (settings.findingsOfKind (.ofObjects objects) kind).references key ↔
      x ∈ (settings.findingsOfKind (.ofObjects others) kind).references key := by
  cases kind with
  | gateway => exact iff_of_eq (congrArg (x ∈ Graph.references · key) pruned.gatewayFindings_eq)
  | virtualService =>
    change x ∈ (settings.virtualServiceFindings _).references key ↔
      x ∈ (settings.virtualServiceFindings _).references key
    rw [MeshSettings.mem_references_virtualServiceFindings_of_ns,
      MeshSettings.mem_references_virtualServiceFindings_of_ns, ← pruned.namespaces_eq owned,
      pruned.sharedHostGraph_eq]
  | destinationRule =>
    exact iff_of_false (settings.not_mem_references_destinationRuleFindings _ key x)
      (settings.not_mem_references_destinationRuleFindings _ key x)
  | peerAuthentication =>
    exact iff_of_false (settings.not_mem_references_peerAuthenticationFindings _ key x)
      (settings.not_mem_references_peerAuthenticationFindings _ key x)

/-- Objects and items that say nothing may be left out: as long as the same namespaces own objects,
the analysis and the report of every namespace stay what they were. -/
theorem analyze_eq_of_pruned (settings : MeshSettings) (objects others : List MeshObject)
    (pruned : Pruned settings (Snapshot.ofObjects objects).namespaces objects others)
    (owned : ∀ object ∈ objects, ∃ owner ∈ others, owner.ns = object.ns) :
    let snapshot := Snapshot.ofObjects objects
    let other := Snapshot.ofObjects others
    settings.analyze snapshot = settings.analyze other ∧
      ∀ ns, settings.mtlsReport snapshot ns = settings.mtlsReport other ns := by
  intro snapshot other
  refine ⟨Graph.ext_get? fun key => ?_, pruned.sameModes.mtlsReport_eq⟩
  refine (settings.sound_analyze snapshot).get?_eq_of_same (settings.sound_analyze other) ?_
    fun x => ?_
  · rw [settings.findings_analyze, settings.findings_analyze]
    exact pruned.findings_findingsOfKind owned key.kind key
  · rw [settings.mem_references_analyze, settings.mem_references_analyze]
    exact pruned.mem_references_findingsOfKind owned key.kind key x

/-- Routes with idle items and objects of every kind that say nothing stand among those of a
namespace with a conflict of gateways, a shared host and a rule against a policy. Without them the
five objects in conflict have the same entries. -/
theorem analyze_eq_of_pruned_bookinfo :
    let littered : MeshObject :=
      { kind := .virtualService, name := "littered", ns := "bookinfo"
        spec := .object [("gateways", .array [.bool true, .string "front"]),
          ("hosts", .array [.string "reviews..", .string "reviews", .null])] }
    let front := gatewayForHosts "front" [.string "reviews.com"]
    let spare := gatewayForHosts "spare" [.string "reviews.com"]
    let reviews := gatewayRoute "reviews" "bookinfo" ["front"] ["reviews"]
    let strict := namespacePolicy "on" "bookinfo" "STRICT"
    let plain := hostRule "plain" "bookinfo" "*.bookinfo.svc.cluster.local" "DISABLE"
    let objects := [front, gatewayForHosts "bare" [], spare, littered,
      gatewayRoute "nowhere" "bookinfo" ["front"] ["reviews.."], reviews,
      namespacePolicy "open" "bookinfo" "", strict,
      hostRule "single" "bookinfo" "reviews.bookinfo.svc.cluster.local" "MUTUAL",
      hostRule "modeless" "bookinfo" "*.bookinfo.svc.cluster.local" "", plain]
    let others := [front, spare, gatewayRoute "littered" "bookinfo" ["front"] ["reviews"], reviews,
      strict, plain]
    let graph := MeshSettings.analyze {} (.ofObjects objects)
    graph = MeshSettings.analyze {} (.ofObjects others) ∧ graph.keys.length = 5 := by
  intro littered front spare reviews strict plain objects others graph
  have htrims : Trims {} (Snapshot.ofObjects objects).namespaces littered
      (gatewayRoute "littered" "bookinfo" ["front"] ["reviews"]) := by
    refine .delete [] (.string "reviews..") [.string "reviews", .null] rfl (.host fun host h => ?_) ?_
    · obtain rfl : "reviews.." = host := Option.some.inj h
      decide
    refine .delete [.string "reviews"] .null [] rfl
      (.host fun host h => absurd h (Option.some_ne_none host).symm) ?_
    exact .delete [] (.bool true) [.string "front"] rfl (.gateway rfl) (.refl _)
  have hsingle : ∀ ns, ¬ AddressesAll {} ns
      (hostRule "single" "bookinfo" "reviews.bookinfo.svc.cluster.local" "MUTUAL") := by
    rintro ns (h | h)
    · have hstar : (MeshSettings.namespaceWideHost {} ns).toList.head? = some '*' := by
        simp [MeshSettings.namespaceWideHost]
      have hhost : "reviews.bookinfo.svc.cluster.local" = MeshSettings.namespaceWideHost {} ns :=
        Option.some.inj h
      rw [← hhost] at hstar
      exact absurd hstar (by decide)
    · exact absurd h (by decide)
  have hnowhere : resolvedHosts {} (Snapshot.ofObjects objects).namespaces
      (gatewayRoute "nowhere" "bookinfo" ["front"] ["reviews.."]) = [] := by decide
  have hopen : peerAuthenticationMode (namespacePolicy "open" "bookinfo" "") = .unset :=
    peerAuthenticationMode_eq_unset_iff.2
      (.inr (.inr ⟨_, _, rfl, rfl, fun word h => (Option.some.inj h).symm⟩))
  have hmodeless : ∀ word, (hostRule "modeless" "bookinfo" "*.bookinfo.svc.cluster.local"
      "").bodyText? ["trafficPolicy", "tls", "mode"] = some word → word = "" :=
    fun word h => (Option.some.inj h).symm
  have hpruned : Pruned {} (Snapshot.ofObjects objects).namespaces objects others :=
    .keep front <| .drop rfl <| .keep spare <| .trim rfl htrims <| .drop hnowhere <|
      .keep reviews <| .drop hopen <| .keep strict <| .drop (.inl hsingle) <|
      .drop (.inr hmodeless) <| .keep plain .nil
  have hns : ∀ space ∈ objects.map MeshObject.ns, space = front.ns := by decide
  obtain ⟨hsame, -⟩ := analyze_eq_of_pruned {} objects others hpruned fun object hmem =>
    ⟨front, .head _, (hns _ (List.mem_map_of_mem hmem)).symm⟩
  exact ⟨hsame, by decide⟩

end MeshAudit

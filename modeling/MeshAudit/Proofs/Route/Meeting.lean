import MeshAudit.Proofs.Route.SharedHost

/-!
# Virtual services that meet

Two virtual services meet when they take part in one conflict over hosts. Where no two have one key,
each refers to exactly those that it meets. What shadows a namespace are the services claimed there,
whoever claims them. So a virtual service for all services of a namespace and for a single one there
is in conflict with itself, and is warned though it meets no other.
-/

namespace MeshAudit

section

variable (settings : MeshSettings) (known : List String)

/-- A virtual service claims a host of a namespace. -/
def ClaimsIn (service : MeshObject) (ns : String) : Prop :=
  ∃ claim, claim.ns = ns ∧ 0 < occurrences settings known service claim

/-- Two of some virtual services take part in one conflict: they make one claim, or both claim a host
of a namespace that is shadowed. -/
def Meets (services : List MeshObject) (service other : MeshObject) : Prop :=
  (∃ claim, 0 < occurrences settings known service claim ∧
    0 < occurrences settings known other claim) ∨
  ∃ ns, IsShadowedNs settings known services ns ∧
    ClaimsIn settings known service ns ∧ ClaimsIn settings known other ns

/-- A virtual service is in conflict with itself: it makes one claim more than once, or shadows a
namespace by its own claims alone. -/
def MeetsItself (service : MeshObject) : Prop :=
  (∃ claim, 1 < occurrences settings known service claim) ∨
  ∃ ns, IsShadowedNs settings known [service] ns

end

section

variable {settings : MeshSettings} {known : List String} {services : List MeshObject}

/-- Virtual services meet each other. -/
theorem meets_comm {service other : MeshObject} :
    Meets settings known services service other ↔ Meets settings known services other service :=
  or_congr (exists_congr fun _ => and_comm) (exists_congr fun _ => and_congr_right fun _ => and_comm)

/-- A claim is made when some virtual service makes it. -/
theorem mem_madeClaims_iff_occurrences {claim : HostClaim} :
    claim ∈ madeClaims settings known services ↔
      ∃ service ∈ services, 0 < occurrences settings known service claim := by
  rw [mem_madeClaims]
  constructor
  · rintro ⟨key, service, hmem, -, hclaim⟩
    exact ⟨service, hmem, hclaim⟩
  · rintro ⟨service, hmem, hclaim⟩
    exact ⟨_, service, hmem, rfl, hclaim⟩

/-- A claim occurs when some virtual service makes it. -/
theorem totalOccurrences_pos_iff {claim : HostClaim} :
    0 < totalOccurrences settings known services claim ↔
      ∃ service ∈ services, 0 < occurrences settings known service claim := by
  rw [totalOccurrences, List.sum_pos_iff_exists_pos_nat]
  simp only [List.mem_map, exists_exists_and_eq_and]

/-- Whether a namespace is shadowed depends on the claims in it only. -/
theorem IsShadowedNs.congr {others : List MeshObject} {ns : String}
    (h : ∀ claim : HostClaim, claim.ns = ns →
      (claim ∈ madeClaims settings known services ↔ claim ∈ madeClaims settings known others))
    (shadowed : IsShadowedNs settings known services ns) :
    IsShadowedNs settings known others ns := by
  have hclaims : (madeClaims settings known services).filter (fun claim => claim.ns = ns) =
      (madeClaims settings known others).filter fun claim => claim.ns = ns := by
    ext claim
    simp only [Finset.mem_filter]
    exact and_congr_left fun hns => h claim hns
  obtain ⟨⟨claim, hmade, hns, hservice⟩, hcard⟩ := shadowed
  exact ⟨⟨claim, (h claim hns).1 hmade, hns, hservice⟩, hclaims ▸ hcard⟩

/-- Whoever shadows a namespace claims a host there. -/
theorem claimsIn_of_isShadowedNs_singleton {service : MeshObject} {ns : String}
    (shadowed : IsShadowedNs settings known [service] ns) : ClaimsIn settings known service ns := by
  obtain ⟨⟨claim, hmade, hns, -⟩, -⟩ := shadowed
  obtain ⟨owner, howner, hclaim⟩ := mem_madeClaims_iff_occurrences.1 hmade
  rw [List.mem_singleton] at howner
  exact ⟨claim, hns, howner ▸ hclaim⟩

/-- References lead to virtual services that were checked. -/
theorem exists_of_mem_references {key x : ObjectKey}
    (h : x ∈ (sharedHostGraph settings known services).references key) :
    ∃ other ∈ services, ObjectKey.ofObject other = x := by
  rcases mem_references_sharedHostGraph.1 h with
    ⟨-, ⟨_, -, -, other, hother, hkey, -⟩ | ⟨_, -, -, _, -, other, hother, hkey, -⟩⟩
  · exact ⟨other, hother, hkey⟩
  · exact ⟨other, hother, hkey⟩

/-- A virtual service whose list of claims has no duplicates makes no claim twice. -/
theorem occurrences_le_one {service : MeshObject} (single : (hostClaims settings known service).Nodup)
    (claim : HostClaim) : occurrences settings known service claim ≤ 1 := by
  have hcount : (hostClaims settings known service).countP (fun made => made.1 = claim) =
      (hostClaims settings known service).count (claim, ObjectKey.ofObject service) := by
    refine List.countP_congr fun made hmade => ?_
    have hkey : made.2 = ObjectKey.ofObject service := snd_of_mem_hostClaims hmade
    simp [Prod.ext_iff, hkey]
  rw [← countP_hostClaims, hcount]
  exact List.nodup_iff_count_le_one.1 single _

/-! ### Virtual services with different keys -/

variable (distinct : (services.map ObjectKey.ofObject).Nodup)

include distinct

/-- What is claimed under the key of a virtual service is what it claims itself. -/
theorem makesClaim_iff_of_mem {service : MeshObject} (hservice : service ∈ services)
    {claim : HostClaim} :
    MakesClaim settings known services (.ofObject service) claim ↔
      0 < occurrences settings known service claim := by
  constructor
  · rintro ⟨owner, howner, hkey, hclaim⟩
    rwa [List.inj_on_of_nodup_map distinct howner hservice hkey] at hclaim
  · intro hclaim
    exact ⟨service, hservice, rfl, hclaim⟩

/-- A claim that a virtual service makes is shared when it makes it twice or another one makes it. -/
theorem isShared_iff_of_mem {service : MeshObject} (hservice : service ∈ services)
    {claim : HostClaim} (hclaim : 0 < occurrences settings known service claim) :
    IsShared settings known services claim ↔
      1 < occurrences settings known service claim ∨
        ∃ other ∈ services, ObjectKey.ofObject other ≠ .ofObject service ∧
          0 < occurrences settings known other claim := by
  obtain ⟨before, after, rfl⟩ := List.append_of_mem hservice
  have htotal : totalOccurrences settings known (before ++ service :: after) claim =
      occurrences settings known service claim +
        totalOccurrences settings known (before ++ after) claim := by
    simp only [totalOccurrences, List.map_append, List.map_cons, List.sum_append, List.sum_cons]
    omega
  have hothers : 0 < totalOccurrences settings known (before ++ after) claim ↔
      ∃ other ∈ before ++ service :: after, ObjectKey.ofObject other ≠ .ofObject service ∧
        0 < occurrences settings known other claim := by
    rw [totalOccurrences_pos_iff]
    rw [List.map_append, List.map_cons] at distinct
    have hkey := (List.nodup_middle.1 distinct).notMem
    rw [← List.map_append] at hkey
    constructor
    · rintro ⟨other, hother, hmakes⟩
      have hsublist := (List.sublist_cons_self service after).append_left before
      exact ⟨other, hsublist.subset hother, fun h => hkey (List.mem_map.2 ⟨other, hother, h⟩), hmakes⟩
    · rintro ⟨other, hother, hne, hmakes⟩
      refine ⟨other, ?_, hmakes⟩
      rcases List.mem_append.1 hother with h | h
      · exact List.mem_append_left _ h
      · rcases List.mem_cons.1 h with rfl | h
        · exact absurd rfl hne
        · exact List.mem_append_right _ h
  rw [IsShared, htotal, ← hothers]
  omega

/-- A virtual service refers to exactly the others that it meets. -/
theorem mem_references_iff_meets {service other : MeshObject} (hservice : service ∈ services)
    (hother : other ∈ services) :
    ObjectKey.ofObject other ∈
        (sharedHostGraph settings known services).references (.ofObject service) ↔
      ObjectKey.ofObject other ≠ .ofObject service ∧
        Meets settings known services service other := by
  rw [mem_references_sharedHostGraph]
  refine and_congr_right fun hne => ?_
  simp only [makesClaim_iff_of_mem distinct hservice, makesClaim_iff_of_mem distinct hother]
  refine or_congr (exists_congr fun claim => ?_) Iff.rfl
  constructor
  · exact And.right
  · intro h
    exact ⟨(isShared_iff_of_mem distinct hservice h.1).2 (.inr ⟨other, hother, hne, h.2⟩), h⟩

/-- A virtual service is warned exactly when it meets another one or itself. -/
theorem contains_iff_meets {service : MeshObject} (hservice : service ∈ services) :
    (sharedHostGraph settings known services).contains (.ofObject service) = true ↔
      (∃ other ∈ services, ObjectKey.ofObject other ≠ .ofObject service ∧
        Meets settings known services service other) ∨ MeetsItself settings known service := by
  rw [contains_sharedHostGraph]
  simp only [makesClaim_iff_of_mem distinct hservice]
  constructor
  · rintro ⟨claim, hclaim, hshared | hshadowed⟩
    · rcases (isShared_iff_of_mem distinct hservice hclaim).1 hshared with
        htwice | ⟨other, hother, hne, hmakes⟩
      · exact .inr (.inl ⟨claim, htwice⟩)
      · exact .inl ⟨other, hother, hne, .inl ⟨claim, hclaim, hmakes⟩⟩
    · by_cases hothers : ∃ other ∈ services, ObjectKey.ofObject other ≠ .ofObject service ∧
          ClaimsIn settings known other claim.ns
      · obtain ⟨other, hother, hne, hclaims⟩ := hothers
        exact .inl ⟨other, hother, hne, .inr ⟨claim.ns, hshadowed, ⟨claim, rfl, hclaim⟩, hclaims⟩⟩
      · -- nobody else claims a host of the namespace, so it is shadowed by this service alone
        refine .inr (.inr ⟨claim.ns, hshadowed.congr fun made hns => ?_⟩)
        rw [mem_madeClaims_iff_occurrences, mem_madeClaims_iff_occurrences]
        constructor
        · rintro ⟨owner, howner, hmade⟩
          by_cases hkey : ObjectKey.ofObject owner = .ofObject service
          · obtain rfl := List.inj_on_of_nodup_map distinct howner hservice hkey
            exact ⟨owner, List.mem_singleton_self owner, hmade⟩
          · exact absurd ⟨owner, howner, hkey, made, hns, hmade⟩ hothers
        · rintro ⟨owner, howner, hmade⟩
          exact ⟨service, hservice, List.mem_singleton.1 howner ▸ hmade⟩
  · rintro (⟨other, hother, hne, ⟨claim, hclaim, hmakes⟩ | ⟨ns, hshadowed, ⟨claim, hns, hclaim⟩, -⟩⟩ |
      ⟨claim, htwice⟩ | ⟨ns, hshadowed⟩)
    · exact ⟨claim, hclaim,
        .inl ((isShared_iff_of_mem distinct hservice hclaim).2 (.inr ⟨other, hother, hne, hmakes⟩))⟩
    · exact ⟨claim, hclaim, .inr (hns ▸ hshadowed)⟩
    · have hclaim := Nat.lt_of_succ_lt htwice
      exact ⟨claim, hclaim, .inl ((isShared_iff_of_mem distinct hservice hclaim).2 (.inl htwice))⟩
    · obtain ⟨claim, hns, hclaim⟩ := claimsIn_of_isShadowedNs_singleton hshadowed
      exact ⟨claim, hclaim, .inr (hns ▸ hshadowed.grow (List.singleton_sublist.2 hservice))⟩

/-- The references of a virtual service are the keys of the others that it meets. -/
theorem mem_references_iff_exists {service : MeshObject} (hservice : service ∈ services)
    {x : ObjectKey} :
    x ∈ (sharedHostGraph settings known services).references (.ofObject service) ↔
      x ≠ .ofObject service ∧ ∃ other ∈ services, ObjectKey.ofObject other = x ∧
        Meets settings known services service other := by
  constructor
  · intro hx
    obtain ⟨other, hother, rfl⟩ := exists_of_mem_references hx
    obtain ⟨hne, hmeets⟩ := (mem_references_iff_meets distinct hservice hother).1 hx
    exact ⟨hne, other, hother, rfl, hmeets⟩
  · rintro ⟨hne, other, hother, rfl, hmeets⟩
    exact (mem_references_iff_meets distinct hservice hother).2 ⟨hne, hmeets⟩

/-- A virtual service has no references when it meets no other. -/
theorem references_eq_empty_iff {service : MeshObject} (hservice : service ∈ services) :
    (sharedHostGraph settings known services).references (.ofObject service) = ∅ ↔
      ∀ other ∈ services, ObjectKey.ofObject other ≠ .ofObject service →
        ¬ Meets settings known services service other := by
  constructor
  · intro hempty other hother hne hmeets
    have hmem := (mem_references_iff_meets distinct hservice hother).2 ⟨hne, hmeets⟩
    rw [hempty] at hmem
    exact SortedSet.not_mem_empty hmem
  · intro hnone
    refine SortedSet.ext_mem fun x => iff_of_false (fun hx => ?_) SortedSet.not_mem_empty
    obtain ⟨hne, other, hother, rfl, hmeets⟩ := (mem_references_iff_exists distinct hservice).1 hx
    exact hnone other hother hne hmeets

end

/-! ### Warnings without company -/

/-- Of virtual services with different keys, each refers to exactly those that it meets. One that
makes no claim twice is warned without a reference exactly when it meets none of them and claims all
services of a namespace beside a single one. -/
theorem warned_alone_iff (settings : MeshSettings) (known : List String)
    (services : List MeshObject) (distinct : (services.map ObjectKey.ofObject).Nodup) :
    let graph := sharedHostGraph settings known services
    (∀ key, graph.contains key = true →
      ∃ service ∈ services, ObjectKey.ofObject service = key) ∧
    ∀ service ∈ services, let key := ObjectKey.ofObject service
      (∀ x, x ∈ graph.references key ↔ x ≠ key ∧
        ∃ other ∈ services, ObjectKey.ofObject other = x ∧
          Meets settings known services service other) ∧
      ((hostClaims settings known service).Nodup →
        (graph.contains key = true ∧ graph.references key = ∅ ↔
          (∀ other ∈ services, ObjectKey.ofObject other ≠ key →
            ¬ Meets settings known services service other) ∧
          ∃ ns, IsShadowedNs settings known [service] ns)) := by
  intro graph
  refine ⟨fun key h => ?_, fun service hservice => ⟨fun x => ?_, fun single => ?_⟩⟩
  · obtain ⟨claim, ⟨service, hmem, hkey, -⟩, -⟩ := contains_sharedHostGraph.1 h
    exact ⟨service, hmem, hkey⟩
  · exact mem_references_iff_exists distinct hservice
  · rw [contains_iff_meets distinct hservice, references_eq_empty_iff distinct hservice]
    constructor
    · rintro ⟨⟨other, hother, hne, hmeets⟩ | ⟨claim, htwice⟩ | hshadows, hnone⟩
      · exact absurd hmeets (hnone other hother hne)
      · exact absurd (occurrences_le_one single claim) (Nat.not_le_of_lt htwice)
      · exact ⟨hnone, hshadows⟩
    · rintro ⟨hnone, hshadows⟩
      exact ⟨.inr (.inr hshadows), hnone⟩

/-- A virtual service that routes some hosts on some gateways. -/
def gatewayRoute (name ns : String) (gateways hosts : List String) : MeshObject :=
  { kind := .virtualService, name, ns
    spec := .object [("gateways", .array (gateways.map .string)),
      ("hosts", .array (hosts.map .string))] }

/-- A virtual service for all services of its namespace and for one of them is warned alone, since
two others meet in another namespace only. -/
theorem warned_alone_own_wildcard :
    let lone := gatewayRoute "lone" "bookinfo" [] ["*", "reviews"]
    let services := [lone, gatewayRoute "front" "default" ["front"] ["ratings"],
      gatewayRoute "back" "default" ["front"] ["ratings"]]
    let graph := sharedHostGraph {} ["bookinfo", "default"] services
    graph.keys.length = 3 ∧
      (∀ other ∈ services, ObjectKey.ofObject other ≠ .ofObject lone →
        ¬ Meets {} ["bookinfo", "default"] services lone other) ∧
      ∃ ns, IsShadowedNs {} ["bookinfo", "default"] [lone] ns := by
  intro lone services graph
  have hdistinct : (services.map ObjectKey.ofObject).Nodup := by decide
  obtain ⟨-, halone⟩ :=
    (warned_alone_iff {} ["bookinfo", "default"] services hdistinct).2 lone (.head _)
  exact ⟨by decide, (halone (by decide)).1 (by decide)⟩

/-- A virtual service for all services of its namespace and for one of them is warned though there is
no other one. -/
theorem lone_service_warned :
    let services := [gatewayRoute "lone" "bookinfo" [] ["*", "reviews"]]
    let graph := sharedHostGraph {} [] services
    let key : ObjectKey := ⟨.virtualService, "bookinfo", "lone"⟩
    (services.map ObjectKey.ofObject).Nodup ∧ graph.contains key = true ∧
      graph.references key = ∅ := by
  decide

end MeshAudit

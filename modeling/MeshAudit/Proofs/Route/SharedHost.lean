import Mathlib.Algebra.BigOperators.Group.Finset.Basic
import Mathlib.Algebra.BigOperators.Ring.Finset
import Mathlib.Algebra.Order.BigOperators.Group.List
import Mathlib.Algebra.Order.Group.Nat
import Mathlib.Data.Finset.Image
import Mathlib.Data.List.ProdSigma
import MeshAudit.Proofs.Graph.Contents
import MeshAudit.Route.SharedHost

/-!
# The conflicts that the check of shared hosts reports

A virtual service makes a claim once for every pair of a host and a gateway that leads to it, so it
can make one claim several times. Its warnings count these pairs, once where the claim is shared
and once more where its namespace is shadowed. It refers to all others that share one of its claims
or claim anything in one of its shadowed namespaces.
-/

namespace MeshAudit

/-- The claim that a host makes on a gateway. -/
def ResolvedHost.claimOn (host : ResolvedHost) (gateway : String) : HostClaim :=
  ⟨gateway, host.cluster, host.ns, host.service⟩

section Claims

variable (settings : MeshSettings) (known : List String)

/-- How many pairs of a host and a gateway of a virtual service lead to a claim. -/
def occurrences (service : MeshObject) (claim : HostClaim) : Nat :=
  ((resolvedHosts settings known service).product (effectiveGateways service)).countP
    fun p => p.1.claimOn p.2 = claim

/-- How many such pairs all virtual services have together. -/
def totalOccurrences (services : List MeshObject) (claim : HostClaim) : Nat :=
  (services.map fun service => occurrences settings known service claim).sum

/-- The claims that some virtual service makes. -/
def madeClaims (services : List MeshObject) : Finset HostClaim :=
  (services.flatMap fun service =>
    ((resolvedHosts settings known service).product (effectiveGateways service)).map
      fun p => p.1.claimOn p.2).toFinset

/-- A claim is shared when it is made more than once. -/
def IsShared (services : List MeshObject) (claim : HostClaim) : Prop :=
  1 < totalOccurrences settings known services claim

instance (services : List MeshObject) (claim : HostClaim) :
    Decidable (IsShared settings known services claim) :=
  inferInstanceAs (Decidable (1 < _))

/-- A namespace is shadowed when all its services are claimed at once and more than one service of
it is claimed. -/
def IsShadowedNs (services : List MeshObject) (ns : String) : Prop :=
  (∃ claim ∈ madeClaims settings known services, claim.ns = ns ∧ claim.service = anyService) ∧
    1 < (((madeClaims settings known services).filter fun claim => claim.ns = ns).image
      HostClaim.service).card

instance (services : List MeshObject) (ns : String) :
    Decidable (IsShadowedNs settings known services ns) :=
  inferInstanceAs (Decidable (_ ∧ _))

/-- A virtual service with a key makes a claim. -/
def MakesClaim (services : List MeshObject) (key : ObjectKey) (claim : HostClaim) : Prop :=
  ∃ service ∈ services, ObjectKey.ofObject service = key ∧
    0 < occurrences settings known service claim

end Claims

section

variable {settings : MeshSettings} {known : List String} {services : List MeshObject}

/-- All claims of the virtual services with their keys, as the check lists them. -/
abbrev allClaims (settings : MeshSettings) (known : List String) (services : List MeshObject) :
    List (HostClaim × ObjectKey) :=
  services.flatMap (hostClaims settings known)

/-- The claims of a virtual service come one from each pair of a host and a gateway. -/
theorem hostClaims_eq_map (settings : MeshSettings) (known : List String) (service : MeshObject) :
    hostClaims settings known service =
      ((resolvedHosts settings known service).product (effectiveGateways service)).map
        fun p => (p.1.claimOn p.2, ObjectKey.ofObject service) := by
  simp only [hostClaims, List.product, List.map_flatMap, List.map_map]
  rfl

/-- A virtual service lists a claim as often as it occurs. -/
theorem countP_hostClaims (service : MeshObject) (claim : HostClaim) :
    (hostClaims settings known service).countP (fun made => made.1 = claim) =
      occurrences settings known service claim := by
  rw [hostClaims_eq_map, List.countP_map]
  rfl

/-- Every claim of a virtual service carries its key. -/
theorem snd_of_mem_hostClaims {service : MeshObject} {made : HostClaim × ObjectKey}
    (h : made ∈ hostClaims settings known service) : made.2 = ObjectKey.ofObject service := by
  rw [hostClaims_eq_map] at h
  obtain ⟨p, -, rfl⟩ := List.mem_map.1 h
  rfl

/-- A virtual service lists exactly the claims that occur. -/
theorem mem_hostClaims {service : MeshObject} {claim : HostClaim} {key : ObjectKey} :
    (claim, key) ∈ hostClaims settings known service ↔
      ObjectKey.ofObject service = key ∧ 0 < occurrences settings known service claim := by
  rw [← countP_hostClaims, List.countP_pos_iff]
  constructor
  · intro h
    exact ⟨(snd_of_mem_hostClaims h).symm, (claim, key), h, by simp⟩
  · intro h
    obtain ⟨rfl, ⟨c, k⟩, hmade, hc⟩ := h
    have hk : k = ObjectKey.ofObject service := snd_of_mem_hostClaims hmade
    have hc : c = claim := by simpa using hc
    exact hc ▸ hk ▸ hmade

/-- The listed claims are those made. -/
theorem mem_allClaims {claim : HostClaim} {key : ObjectKey} :
    (claim, key) ∈ allClaims settings known services ↔
      MakesClaim settings known services key claim := by
  simp only [allClaims, List.mem_flatMap, mem_hostClaims, MakesClaim]

/-- The claims listed are those that some virtual service makes. -/
theorem mem_map_fst_allClaims {claim : HostClaim} :
    claim ∈ (allClaims settings known services).map Prod.fst ↔
      ∃ key, MakesClaim settings known services key claim := by
  rw [List.mem_map]
  constructor
  · intro h
    obtain ⟨⟨c, key⟩, hmade, rfl⟩ := h
    exact ⟨key, mem_allClaims.1 hmade⟩
  · intro h
    obtain ⟨key, hmakes⟩ := h
    exact ⟨(claim, key), mem_allClaims.2 hmakes, rfl⟩

/-- A made claim is one that some virtual service makes. -/
theorem mem_madeClaims {claim : HostClaim} :
    claim ∈ madeClaims settings known services ↔
      ∃ key, MakesClaim settings known services key claim := by
  have hlist : madeClaims settings known services =
      ((allClaims settings known services).map Prod.fst).toFinset := by
    simp only [madeClaims, allClaims, List.map_flatMap, hostClaims_eq_map, List.map_map]
    rfl
  rw [hlist, List.mem_toFinset, mem_map_fst_allClaims]

/-- Those who make a claim, as often as they make it, are as many as the claim occurs. -/
theorem length_claimants (claim : HostClaim) :
    (claimants (allClaims settings known services) claim).length =
      totalOccurrences settings known services claim := by
  rw [claimants, List.length_map, ← List.countP_eq_length_filter, List.countP_flatMap,
    totalOccurrences]
  simp only [Function.comp_def, countP_hostClaims]

/-- A key is among those who make a claim as often as its virtual services make it. -/
theorem countP_claimants (key : ObjectKey) (claim : HostClaim) :
    (claimants (allClaims settings known services) claim).countP (fun k => k = key) =
      ((services.filter fun service => ObjectKey.ofObject service = key).map fun service =>
        occurrences settings known service claim).sum := by
  rw [claimants, List.countP_map, List.countP_filter]
  induction services with
  | nil => rfl
  | cons service rest ih =>
    have hone : (hostClaims settings known service).countP
        (fun made => ((fun k => decide (k = key)) ∘ Prod.snd) made && decide (made.1 = claim)) =
          if ObjectKey.ofObject service = key then occurrences settings known service claim
          else 0 := by
      rw [← countP_hostClaims]
      split
      · next hk =>
        refine List.countP_congr fun made hmade => ?_
        simp [snd_of_mem_hostClaims hmade, hk]
      · next hk =>
        refine List.countP_eq_zero.2 fun made hmade => ?_
        simp [snd_of_mem_hostClaims hmade, hk]
    rw [allClaims, List.flatMap_cons, List.countP_append, ih, hone]
    by_cases hk : ObjectKey.ofObject service = key <;> simp [hk]

/-- The keys of those who make a claim. -/
theorem mem_claimants {key : ObjectKey} {claim : HostClaim} :
    key ∈ claimants (allClaims settings known services) claim ↔
      MakesClaim settings known services key claim := by
  rw [← mem_allClaims, claimants, List.mem_map]
  constructor
  · intro h
    obtain ⟨⟨c, k⟩, hmade, rfl⟩ := h
    obtain ⟨hmade, hc⟩ := List.mem_filter.1 hmade
    have hc : c = claim := by simpa using hc
    exact hc ▸ hmade
  · intro h
    exact ⟨(claim, key), List.mem_filter.2 ⟨h, by simp⟩, rfl⟩

/-- The keys of those who claim anything in a namespace. -/
theorem mem_namespaceClaimants {key : ObjectKey} {ns : String} :
    key ∈ namespaceClaimants (allClaims settings known services) ns ↔
      ∃ claim, claim.ns = ns ∧ MakesClaim settings known services key claim := by
  simp only [← mem_allClaims, namespaceClaimants, List.mem_map, List.mem_filter]
  constructor
  · intro h
    obtain ⟨⟨c, k⟩, ⟨hmade, hns⟩, rfl⟩ := h
    exact ⟨c, by simpa using hns, hmade⟩
  · intro h
    obtain ⟨c, hns, hmade⟩ := h
    exact ⟨(c, key), ⟨hmade, by simpa using hns⟩, rfl⟩

/-- The check finds a namespace shadowed exactly when it is. -/
theorem isShadowed_eq_true_iff {ns : String} :
    isShadowed (allClaims settings known services) ns = true ↔
      IsShadowedNs settings known services ns := by
  have hany : ∀ keep : HostClaim → Bool,
      (allClaims settings known services).any (fun made => keep made.1) = true ↔
        ∃ claim ∈ madeClaims settings known services, keep claim = true := by
    intro keep
    simp only [List.any_eq_true, mem_madeClaims, ← mem_allClaims]
    constructor
    · intro h
      obtain ⟨⟨c, k⟩, hmade, hkeep⟩ := h
      exact ⟨c, ⟨k, hmade⟩, hkeep⟩
    · intro h
      obtain ⟨c, ⟨k, hmade⟩, hkeep⟩ := h
      exact ⟨(c, k), hmade, hkeep⟩
  have hwild := hany fun claim => claim.ns = ns && claim.service = anyService
  have hsingle := hany fun claim => claim.ns = ns && claim.service ≠ anyService
  unfold isShadowed IsShadowedNs
  rw [Bool.and_eq_true, hwild, hsingle, Finset.one_lt_card]
  simp only [Bool.and_eq_true, decide_eq_true_eq, Finset.mem_image, Finset.mem_filter]
  refine and_congr_right fun ⟨c, hc, hns, hservice⟩ => ?_
  constructor
  · intro h
    obtain ⟨d, hd, hdns, hdservice⟩ := h
    exact ⟨_, ⟨c, ⟨hc, hns⟩, rfl⟩, _, ⟨d, ⟨hd, hdns⟩, rfl⟩, fun h => hdservice (h ▸ hservice)⟩
  · intro h
    obtain ⟨_, ⟨d, ⟨hd, hdns⟩, rfl⟩, _, ⟨e, ⟨he, hens⟩, rfl⟩, hne⟩ := h
    by_cases hdservice : d.service = anyService
    · exact ⟨e, he, hens, fun h => hne (hdservice.trans h.symm)⟩
    · exact ⟨d, hd, hdns, hdservice⟩

section

variable {grown : List MeshObject}

/-- A claim that is made stays made. -/
theorem MakesClaim.grow (h : services.Sublist grown) {key : ObjectKey} {claim : HostClaim}
    (hmakes : MakesClaim settings known services key claim) :
    MakesClaim settings known grown key claim := by
  obtain ⟨service, hmem, hclaim⟩ := hmakes
  exact ⟨service, h.subset hmem, hclaim⟩

/-- The claims that were made are among those made then. -/
theorem madeClaims_subset (h : services.Sublist grown) :
    madeClaims settings known services ⊆ madeClaims settings known grown := by
  intro claim hclaim
  obtain ⟨key, hmakes⟩ := mem_madeClaims.1 hclaim
  exact mem_madeClaims.2 ⟨key, hmakes.grow h⟩

/-- A claim that is shared stays shared. -/
theorem IsShared.grow (h : services.Sublist grown) {claim : HostClaim}
    (hshared : IsShared settings known services claim) : IsShared settings known grown claim :=
  Nat.lt_of_lt_of_le hshared ((h.map _).sum_le_sum fun _ _ => Nat.zero_le _)

/-- A namespace that is shadowed stays shadowed. -/
theorem IsShadowedNs.grow (h : services.Sublist grown) {ns : String}
    (hshadowed : IsShadowedNs settings known services ns) :
    IsShadowedNs settings known grown ns := by
  obtain ⟨⟨claim, hclaim, hwild⟩, hcard⟩ := hshadowed
  have hmade : madeClaims settings known services ⊆ madeClaims settings known grown :=
    madeClaims_subset h
  refine ⟨⟨claim, hmade hclaim, hwild⟩, Nat.lt_of_lt_of_le hcard (Finset.card_le_card ?_)⟩
  exact Finset.image_subset_image (Finset.filter_subset_filter _ hmade)

end

/-- The warning that a virtual service gets for one conflict over its hosts. -/
abbrev sharedHostFinding : Finding := ⟨.virtualServiceSingleHost, "spec/hosts", .warning⟩

@[simp] theorem findings_sharedHostEntry (key : ObjectKey) (others : List ObjectKey) :
    (sharedHostEntry key others).findings = [sharedHostFinding] := by
  rw [sharedHostEntry, Entry.findings_addReferences]
  rfl

@[simp] theorem key_sharedHostEntry (key : ObjectKey) (others : List ObjectKey) :
    (sharedHostEntry key others).key = key := by
  rw [sharedHostEntry, Entry.key_addReferences]
  rfl

@[simp] theorem valid_sharedHostEntry (key : ObjectKey) (others : List ObjectKey) :
    (sharedHostEntry key others).valid = true := by
  rw [sharedHostEntry, Entry.valid_addReferences]
  rfl

/-- The warning refers to all others that take part in the conflict. -/
@[simp] theorem mem_references_sharedHostEntry {key x : ObjectKey} {others : List ObjectKey} :
    x ∈ (sharedHostEntry key others).references ↔ x ∈ others ∧ x ≠ key := by
  rw [sharedHostEntry, Entry.mem_addReferences]
  simp only [Entry.not_mem_references_ofKey_addFinding, or_false]
  rfl

/-- How many conflicts a claim takes part in: one when it is shared and one when its namespace is
shadowed. -/
def conflictCount (settings : MeshSettings) (known : List String) (services : List MeshObject)
    (claim : HostClaim) : Nat :=
  (if IsShared settings known services claim then 1 else 0) +
    if IsShadowedNs settings known services claim.ns then 1 else 0

/-- Lists that each hold a fixed number of hits for a kept item hold that many for each of them. -/
theorem countP_flatMap_of_const {α β : Type} {keep : α → Bool} {hit : β → Bool} {f : α → List β}
    {n : Nat} (each : ∀ x, (f x).countP hit = if keep x then n else 0) (xs : List α) :
    (xs.flatMap f).countP hit = xs.countP keep * n := by
  induction xs with
  | nil => simp
  | cons x rest ih =>
    rw [List.flatMap_cons, List.countP_append, ih, each, List.countP_cons]
    cases keep x
    · simp
    · simp only [if_true, Nat.succ_mul]
      omega

/-- Whoever makes a claim is warned for each of its conflicts. -/
theorem countP_claimEntries (key : ObjectKey) (claim : HostClaim) :
    (claimEntries (allClaims settings known services) claim).countP (fun e => e.key = key) =
      (claimants (allClaims settings known services) claim).countP (fun k => k = key) *
        conflictCount settings known services claim := by
  have hshared : 1 < (claimants (allClaims settings known services) claim).length ↔
      IsShared settings known services claim := by
    rw [length_claimants, IsShared]
  refine countP_flatMap_of_const (fun k => ?_) _
  simp only [hshared, isShadowed_eq_true_iff, List.countP_append, conflictCount]
  by_cases hk : k = key <;>
    by_cases hs : IsShared settings known services claim <;>
      by_cases hn : IsShadowedNs settings known services claim.ns <;>
        simp [hk, hs, hn]

/-- The warnings about a claim go to those who make it. Where it is shared they refer to all who
make it, and where its namespace is shadowed to all with a claim there. -/
theorem mem_claimEntries {claim : HostClaim} {entry : Entry} :
    entry ∈ claimEntries (allClaims settings known services) claim ↔
      ∃ key, MakesClaim settings known services key claim ∧
        (IsShared settings known services claim ∧
            entry = sharedHostEntry key (claimants (allClaims settings known services) claim) ∨
          IsShadowedNs settings known services claim.ns ∧
            entry = sharedHostEntry key
              (namespaceClaimants (allClaims settings known services) claim.ns)) := by
  simp only [claimEntries, List.mem_flatMap, mem_claimants, List.mem_append, length_claimants,
    ← isShadowed_eq_true_iff, IsShared]
  refine exists_congr fun key => and_congr_right fun _ => or_congr ?_ ?_ <;>
    split <;> simp_all

/-- All warnings, claim by claim. -/
def sharedHostEntries (settings : MeshSettings) (known : List String)
    (services : List MeshObject) : List Entry :=
  (SortedSet.ofList ((allClaims settings known services).map Prod.fst)).toList.flatMap
    (claimEntries (allClaims settings known services))

/-- The graph of the check takes in all warnings. -/
theorem sharedHostGraph_eq (settings : MeshSettings) (known : List String)
    (services : List MeshObject) :
    sharedHostGraph settings known services =
      .ofEntries (sharedHostEntries settings known services) := rfl

/-- The claims that the check goes through are those made. -/
theorem mem_claimList {claim : HostClaim} :
    claim ∈ (SortedSet.ofList ((allClaims settings known services).map Prod.fst)).toList ↔
      ∃ key, MakesClaim settings known services key claim := by
  have hset : claim ∈ SortedSet.ofList ((allClaims settings known services).map Prod.fst) ↔
      claim ∈ (allClaims settings known services).map Prod.fst := SortedSet.mem_ofList
  exact hset.trans mem_map_fst_allClaims

/-- A warning is about some claim. -/
theorem mem_sharedHostEntries {entry : Entry} :
    entry ∈ sharedHostEntries settings known services ↔
      ∃ claim, entry ∈ claimEntries (allClaims settings known services) claim := by
  rw [sharedHostEntries, List.mem_flatMap]
  constructor
  · intro h
    obtain ⟨claim, -, h⟩ := h
    exact ⟨claim, h⟩
  · intro h
    obtain ⟨claim, h⟩ := h
    obtain ⟨key, hmakes, -⟩ := mem_claimEntries.1 h
    exact ⟨claim, mem_claimList.2 ⟨key, hmakes⟩, h⟩

/-- A key is warned, for each of its virtual services and each claim, as often as the service makes
the claim and the claim has conflicts. -/
theorem countP_sharedHostEntries (settings : MeshSettings) (known : List String)
    (services : List MeshObject) (key : ObjectKey) :
    (sharedHostEntries settings known services).countP (fun e => e.key = key) =
      ((services.filter fun service => ObjectKey.ofObject service = key).map fun service =>
        ∑ claim ∈ madeClaims settings known services,
          occurrences settings known service claim *
            conflictCount settings known services claim).sum := by
  have hclaims : madeClaims settings known services =
      (SortedSet.ofList ((allClaims settings known services).map Prod.fst)).toList.toFinset := by
    ext claim
    rw [mem_madeClaims, List.mem_toFinset, mem_claimList]
  have hswap : ∀ chosen : List MeshObject,
      ∑ claim ∈ madeClaims settings known services,
          (chosen.map fun service => occurrences settings known service claim).sum *
            conflictCount settings known services claim =
        (chosen.map fun service => ∑ claim ∈ madeClaims settings known services,
          occurrences settings known service claim *
            conflictCount settings known services claim).sum := by
    intro chosen
    induction chosen with
    | nil => simp
    | cons service rest ih =>
      simp only [List.map_cons, List.sum_cons, Nat.add_mul, Finset.sum_add_distrib, ih]
  rw [← hswap, hclaims, List.sum_toFinset _ (SortedSet.nodup_toList _), sharedHostEntries,
    List.countP_flatMap]
  simp only [Function.comp_def, countP_claimEntries, countP_claimants]

/-- Every warning has the one finding of the check. -/
theorem findings_of_mem_sharedHostEntries {entry : Entry}
    (h : entry ∈ sharedHostEntries settings known services) :
    entry.findings = [sharedHostFinding] ∧ entry.valid = true := by
  obtain ⟨claim, hentry⟩ := mem_sharedHostEntries.1 h
  obtain ⟨key, -, ⟨-, rfl⟩ | ⟨-, rfl⟩⟩ := mem_claimEntries.1 hentry
  · exact ⟨findings_sharedHostEntry _ _, valid_sharedHostEntry _ _⟩
  · exact ⟨findings_sharedHostEntry _ _, valid_sharedHostEntry _ _⟩

/-- The findings of a key are as many copies of the one finding as it has warnings. -/
theorem findings_sharedHostGraph (settings : MeshSettings) (known : List String)
    (services : List MeshObject) (key : ObjectKey) :
    (sharedHostGraph settings known services).findings key =
      List.replicate ((sharedHostEntries settings known services).countP fun e => e.key = key)
        sharedHostFinding := by
  have hone : ∀ entry ∈ (sharedHostEntries settings known services).filter (fun e => e.key = key),
      entry.findings = [sharedHostFinding] := by
    intro entry h
    exact (findings_of_mem_sharedHostEntries (List.mem_filter.1 h).1).1
  rw [sharedHostGraph_eq, Graph.findings_ofEntries, List.flatMap_congr hone,
    List.countP_eq_length_filter]
  simp [← List.map_eq_flatMap]

/-- A key refers to the others that make one of its shared claims or claim anything in one of its
shadowed namespaces. -/
theorem mem_references_sharedHostGraph {key x : ObjectKey} :
    x ∈ (sharedHostGraph settings known services).references key ↔
      x ≠ key ∧
        ((∃ claim, IsShared settings known services claim ∧
            MakesClaim settings known services key claim ∧
            MakesClaim settings known services x claim) ∨
          ∃ ns, IsShadowedNs settings known services ns ∧
            (∃ claim, claim.ns = ns ∧ MakesClaim settings known services key claim) ∧
            ∃ claim, claim.ns = ns ∧ MakesClaim settings known services x claim) := by
  rw [sharedHostGraph_eq, Graph.mem_references_ofEntries]
  simp only [mem_sharedHostEntries, mem_claimEntries]
  constructor
  · intro h
    rcases h with ⟨_, ⟨claim, k, hk, ⟨hs, rfl⟩ | ⟨hs, rfl⟩⟩, hkey, -, hx⟩
    · rw [key_sharedHostEntry] at hkey
      rw [mem_references_sharedHostEntry, mem_claimants] at hx
      subst hkey
      exact ⟨hx.2, .inl ⟨claim, hs, hk, hx.1⟩⟩
    · rw [key_sharedHostEntry] at hkey
      rw [mem_references_sharedHostEntry, mem_namespaceClaimants] at hx
      subst hkey
      exact ⟨hx.2, .inr ⟨claim.ns, hs, ⟨claim, rfl, hk⟩, hx.1⟩⟩
  · intro h
    rcases h with ⟨hne, ⟨claim, hs, hk, hx⟩ | ⟨ns, hs, ⟨claim, rfl, hk⟩, hx⟩⟩
    · refine ⟨_, ⟨claim, key, hk, .inl ⟨hs, rfl⟩⟩, key_sharedHostEntry _ _, by simp, ?_⟩
      exact mem_references_sharedHostEntry.2 ⟨mem_claimants.2 hx, hne⟩
    · refine ⟨_, ⟨claim, key, hk, .inr ⟨hs, rfl⟩⟩, key_sharedHostEntry _ _, by simp, ?_⟩
      exact mem_references_sharedHostEntry.2 ⟨mem_namespaceClaimants.2 hx, hne⟩

/-- The keys with an entry are those that make a claim with a conflict. -/
theorem contains_sharedHostGraph {key : ObjectKey} :
    (sharedHostGraph settings known services).contains key = true ↔
      ∃ claim, MakesClaim settings known services key claim ∧
        (IsShared settings known services claim ∨
          IsShadowedNs settings known services claim.ns) := by
  rw [sharedHostGraph_eq, Graph.contains_ofEntries]
  simp only [mem_sharedHostEntries, mem_claimEntries]
  constructor
  · intro h
    rcases h with ⟨_, ⟨claim, k, hk, ⟨hs, rfl⟩ | ⟨hs, rfl⟩⟩, hkey, -⟩
    · rw [key_sharedHostEntry] at hkey
      exact ⟨claim, hkey ▸ hk, .inl hs⟩
    · rw [key_sharedHostEntry] at hkey
      exact ⟨claim, hkey ▸ hk, .inr hs⟩
  · intro h
    rcases h with ⟨claim, hk, hs | hs⟩
    · exact ⟨_, ⟨claim, key, hk, .inl ⟨hs, rfl⟩⟩, key_sharedHostEntry _ _, by simp⟩
    · exact ⟨_, ⟨claim, key, hk, .inr ⟨hs, rfl⟩⟩, key_sharedHostEntry _ _, by simp⟩

/-- Warnings leave every key valid. -/
theorem isValid_sharedHostGraph (settings : MeshSettings) (known : List String)
    (services : List MeshObject) (key : ObjectKey) :
    (sharedHostGraph settings known services).isValid key = true := by
  rw [sharedHostGraph_eq, Graph.isValid_ofEntries]
  intro entry h _ _
  exact (findings_of_mem_sharedHostEntries h).2

/-- A virtual service is warned once per pair of host and gateway behind each shared claim of its
own, and once more per pair in a shadowed namespace. It refers to exactly the others that take part,
stays valid, and has no other findings. -/
theorem sharedHostGraph_counts_claims (settings : MeshSettings) (known : List String)
    (services : List MeshObject) :
    let graph := sharedHostGraph settings known services
    (∀ key, graph.findings key =
      List.replicate
        ((services.filter fun service => ObjectKey.ofObject service = key).map fun service =>
          ∑ claim ∈ madeClaims settings known services,
            occurrences settings known service claim *
              ((if IsShared settings known services claim then 1 else 0) +
                if IsShadowedNs settings known services claim.ns then 1 else 0)).sum
        ⟨.virtualServiceSingleHost, "spec/hosts", .warning⟩) ∧
    (∀ key other, other ∈ graph.references key ↔
      other ≠ key ∧
        ((∃ claim, IsShared settings known services claim ∧
            MakesClaim settings known services key claim ∧
            MakesClaim settings known services other claim) ∨
          ∃ ns, IsShadowedNs settings known services ns ∧
            (∃ claim, claim.ns = ns ∧ MakesClaim settings known services key claim) ∧
            ∃ claim, claim.ns = ns ∧ MakesClaim settings known services other claim)) ∧
    (∀ key, graph.contains key = true ↔
      ∃ claim, MakesClaim settings known services key claim ∧
        (IsShared settings known services claim ∨
          IsShadowedNs settings known services claim.ns)) ∧
    ∀ key, graph.isValid key = true := by
  refine ⟨fun key => ?_, fun key other => mem_references_sharedHostGraph,
    fun key => contains_sharedHostGraph, isValid_sharedHostGraph settings known services⟩
  rw [findings_sharedHostGraph, countP_sharedHostEntries]
  rfl

end

end MeshAudit

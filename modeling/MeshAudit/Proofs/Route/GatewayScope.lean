import MeshAudit.Proofs.Route.HostForm
import MeshAudit.Proofs.Route.Meeting

/-!
# Virtual services on different gateways

A virtual service applies to the gateways that it names, and one that names none has a gateway of
its own for that. Where no host stands for all services of a namespace, two virtual services meet
exactly when they have a gateway in common and hosts that lead to one place. So those that name
different gateways stay apart, unless one names none and the other the gateway that stands for none.
-/

namespace MeshAudit

/-- The gateways that a virtual service names. -/
def declaredGateways (service : MeshObject) : List String :=
  (service.bodyTexts ["gateways"]).map Prod.snd

/-- One virtual service names no gateway, and the other one names the gateway that stands for
none. -/
def TakesNoGateway (service other : MeshObject) : Prop :=
  declaredGateways service = [] ∧ noGateway ∈ declaredGateways other

section

variable {settings : MeshSettings} {known : List String} {services : List MeshObject}
  {service other : MeshObject}

/-- A virtual service applies to the gateways that it names, or to the one that stands for none. -/
theorem mem_effectiveGateways {gateway : String} :
    gateway ∈ effectiveGateways service ↔
      gateway ∈ declaredGateways service ∨ declaredGateways service = [] ∧ gateway = noGateway := by
  rw [effectiveGateways_eq, declaredGateways]
  cases (service.bodyTexts ["gateways"]).map Prod.snd with
  | nil => simp
  | cons first rest => simp

/-- A virtual service makes a claim for a host and a gateway of its own. -/
theorem occurrences_pos_iff {claim : HostClaim} :
    0 < occurrences settings known service claim ↔
      ∃ host ∈ resolvedHosts settings known service, ∃ gateway ∈ effectiveGateways service,
        host.claimOn gateway = claim := by
  unfold occurrences
  rw [List.countP_pos_iff]
  simp only [Prod.exists, List.pair_mem_product, decide_eq_true_eq]
  constructor
  · rintro ⟨host, gateway, ⟨hhost, hgateway⟩, hclaim⟩
    exact ⟨host, hhost, gateway, hgateway, hclaim⟩
  · rintro ⟨host, hhost, gateway, hgateway, hclaim⟩
    exact ⟨host, gateway, ⟨hhost, hgateway⟩, hclaim⟩

/-- Two virtual services make one claim when they have a gateway in common and hosts that lead to one
place. -/
theorem exists_common_claim_iff :
    (∃ claim, 0 < occurrences settings known service claim ∧
        0 < occurrences settings known other claim) ↔
      (∃ gateway ∈ effectiveGateways service, gateway ∈ effectiveGateways other) ∧
        ∃ host ∈ resolvedHosts settings known service,
          ∃ hostOther ∈ resolvedHosts settings known other, host.place = hostOther.place := by
  simp only [occurrences_pos_iff]
  constructor
  · rintro ⟨_, ⟨host, hhost, gateway, hgateway, rfl⟩, hostOther, hhostOther, gatewayOther,
      hgatewayOther, hclaim⟩
    obtain rfl : gatewayOther = gateway := congrArg HostClaim.gateway hclaim
    exact ⟨⟨gatewayOther, hgateway, hgatewayOther⟩, host, hhost, hostOther, hhostOther,
      (ResolvedHost.claimOn_eq_iff.1 hclaim).symm⟩
  · rintro ⟨⟨gateway, hgateway, hgatewayOther⟩, host, hhost, hostOther, hhostOther, hplace⟩
    exact ⟨host.claimOn gateway, ⟨host, hhost, gateway, hgateway, rfl⟩, hostOther, hhostOther,
      gateway, hgatewayOther, ResolvedHost.claimOn_eq_iff.2 hplace.symm⟩

/-- Virtual services that name different gateways, one of them at least one, have a gateway in common
when one names none and the other the gateway that stands for none. -/
theorem exists_common_gateway_iff
    (apart : ∀ gateway ∈ declaredGateways service, gateway ∉ declaredGateways other)
    (named : ¬ (declaredGateways service = [] ∧ declaredGateways other = [])) :
    (∃ gateway ∈ effectiveGateways service, gateway ∈ effectiveGateways other) ↔
      TakesNoGateway service other ∨ TakesNoGateway other service := by
  simp only [mem_effectiveGateways]
  constructor
  · rintro ⟨gateway, hmine | ⟨hnone, rfl⟩, htheirs | ⟨hnoneOther, hgateway⟩⟩
    · exact absurd htheirs (apart gateway hmine)
    · exact .inr ⟨hnoneOther, hgateway ▸ hmine⟩
    · exact .inl ⟨hnone, htheirs⟩
    · exact absurd ⟨hnone, hnoneOther⟩ named
  · rintro (⟨hnone, hnamed⟩ | ⟨hnone, hnamed⟩)
    · exact ⟨noGateway, .inr ⟨hnone, rfl⟩, .inl hnamed⟩
    · exact ⟨noGateway, .inl hnamed, .inr ⟨hnone, rfl⟩⟩

/-- No namespace is shadowed where no host stands for all services of one. -/
theorem not_isShadowedNs
    (single : ∀ service ∈ services, ∀ host ∈ resolvedHosts settings known service,
      host.service ≠ anyService) (ns : String) :
    ¬ IsShadowedNs settings known services ns := by
  rintro ⟨⟨claim, hmade, -, hany⟩, -⟩
  obtain ⟨service, hservice, hclaim⟩ := mem_madeClaims_iff_occurrences.1 hmade
  obtain ⟨host, hhost, gateway, -, rfl⟩ := occurrences_pos_iff.1 hclaim
  exact single service hservice host hhost hany

/-- Where no host stands for all services of a namespace, two virtual services meet when they have a
gateway in common and hosts that lead to one place. -/
theorem meets_iff_of_single
    (single : ∀ service ∈ services, ∀ host ∈ resolvedHosts settings known service,
      host.service ≠ anyService) :
    Meets settings known services service other ↔
      (∃ gateway ∈ effectiveGateways service, gateway ∈ effectiveGateways other) ∧
        ∃ host ∈ resolvedHosts settings known service,
          ∃ hostOther ∈ resolvedHosts settings known other, host.place = hostOther.place := by
  rw [Meets, exists_common_claim_iff]
  refine or_iff_left ?_
  rintro ⟨ns, hshadowed, -⟩
  exact not_isShadowedNs single ns hshadowed

end

/-- Two virtual services that name different gateways, and no host for all services of a namespace,
refer to each other exactly when one names no gateway, the other names the one that stands for none,
and they have hosts that lead to one place. -/
theorem distinct_scopes_refer_iff (settings : MeshSettings) (known : List String)
    (services : List MeshObject) (distinct : (services.map ObjectKey.ofObject).Nodup)
    (single : ∀ service ∈ services, ∀ host ∈ resolvedHosts settings known service,
      host.service ≠ anyService)
    (service other : MeshObject) (hservice : service ∈ services) (hother : other ∈ services)
    (different : ObjectKey.ofObject service ≠ .ofObject other)
    (apart : ∀ gateway ∈ declaredGateways service, gateway ∉ declaredGateways other)
    (named : ¬ (declaredGateways service = [] ∧ declaredGateways other = [])) :
    let graph := sharedHostGraph settings known services
    let bridged := (TakesNoGateway service other ∨ TakesNoGateway other service) ∧
      ∃ host ∈ resolvedHosts settings known service,
        ∃ hostOther ∈ resolvedHosts settings known other, host.place = hostOther.place
    (ObjectKey.ofObject other ∈ graph.references (.ofObject service) ↔ bridged) ∧
      (ObjectKey.ofObject service ∈ graph.references (.ofObject other) ↔ bridged) := by
  intro graph bridged
  have hmeets : Meets settings known services service other ↔ bridged := by
    rw [meets_iff_of_single single, exists_common_gateway_iff apart named]
  constructor
  · calc ObjectKey.ofObject other ∈ graph.references (.ofObject service)
      _ ↔ _ := mem_references_iff_meets distinct hservice hother
      _ ↔ Meets settings known services service other := and_iff_right different.symm
      _ ↔ bridged := hmeets
  · calc ObjectKey.ofObject service ∈ graph.references (.ofObject other)
      _ ↔ _ := mem_references_iff_meets distinct hother hservice
      _ ↔ Meets settings known services other service := and_iff_right different
      _ ↔ bridged := meets_comm.trans hmeets

/-- A virtual service on a gateway of its own stays apart from those that name another one or none,
though all route one host. -/
theorem distinct_scopes_apart :
    let plain := gatewayRoute "plain" "bookinfo" [] ["reviews"]
    let front := gatewayRoute "front" "bookinfo" ["front"] ["ratings", "reviews"]
    let back := gatewayRoute "back" "bookinfo" ["back"] ["reviews"]
    let services := [plain, front, back]
    let graph := sharedHostGraph {} [] services
    ¬ ObjectKey.ofObject back ∈ graph.references (.ofObject front) ∧
      ¬ ObjectKey.ofObject plain ∈ graph.references (.ofObject front) := by
  intro plain front back services graph
  have hdistinct : (services.map ObjectKey.ofObject).Nodup := by decide
  have hsingle : ∀ service ∈ services, ∀ host ∈ resolvedHosts {} [] service,
      host.service ≠ anyService := by decide
  have hfront : front ∈ services := .tail _ (.head _)
  have hback := distinct_scopes_refer_iff {} [] services hdistinct hsingle front back hfront
    (.tail _ (.tail _ (.head _))) (by decide) (by decide) (by decide)
  have hplain := distinct_scopes_refer_iff {} [] services hdistinct hsingle front plain hfront
    (.head _) (by decide) (by decide) (by decide)
  refine ⟨fun h => absurd (hback.1.1 h).1 ?_, fun h => absurd (hplain.1.1 h).1 ?_⟩
  · unfold TakesNoGateway
    decide
  · unfold TakesNoGateway
    decide

/-- A virtual service that names the gateway that stands for none refers to one that names none. -/
theorem no_gateway_by_name_refers :
    let plain := gatewayRoute "plain" "bookinfo" [] ["reviews"]
    let named := gatewayRoute "named" "bookinfo" ["no-gateway"] ["reviews"]
    let services := [plain, named]
    let graph := sharedHostGraph {} [] services
    (services.map ObjectKey.ofObject).Nodup ∧
      (∀ service ∈ services, ∀ host ∈ resolvedHosts {} [] service, host.service ≠ anyService) ∧
      (∀ gateway ∈ declaredGateways plain, gateway ∉ declaredGateways named) ∧
      ¬ (declaredGateways plain = [] ∧ declaredGateways named = []) ∧
      ObjectKey.ofObject named ∈ graph.references (.ofObject plain) ∧
      ObjectKey.ofObject plain ∈ graph.references (.ofObject named) := by
  decide

end MeshAudit

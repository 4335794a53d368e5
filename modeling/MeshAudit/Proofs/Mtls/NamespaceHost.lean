import MeshAudit.Proofs.Mtls.Inheritance
import MeshAudit.Proofs.Route.HostForm

/-!
# Hosts that stand for a namespace

The mTLS checks spell the host of a namespace: a star, the namespace and the identity domain, with
dots between them. The check of shared hosts reads names: it takes them apart at their dots and
compares what is left with the identity domain. Where the identity domain is valid, the hosts that
it reads as all services of a namespace, wherever they stand, are exactly those that are spelled.
-/

namespace MeshAudit

/-! ### Hosts that name their namespace -/

section

variable {domain : String} {known : List String} {ns cluster host : String}

/-- A host names its namespace itself in two spellings: the namespace is known, or the identity
domain follows it. -/
theorem resolveHost_eq_complete_iff (hdomain : "" ∉ hostLabels domain) {service space : String} :
    resolveHost domain known ns cluster host = some ⟨cluster, space, service, true⟩ ↔
      IsLabel service ∧ IsLabel space ∧
        (space ∈ known ∧ host = service ++ "." ++ space ∨
          host = service ++ "." ++ space ++ "." ++ domain) := by
  constructor
  · intro h
    have hempty := not_mem_hostLabels_of_resolveHost h
    have hnames : ∃ named there, NamesService domain known ns host named there := by
      by_contra hnone
      push Not at hnone
      have hwhole := (resolveHost_of_not_namesService cluster hempty hnone).1
      rw [h] at hwhole
      cases hwhole
    obtain ⟨named, there, hnames⟩ := hnames
    cases hnames with
    | short hservice =>
      rw [resolveHost_short hservice] at h
      cases h
    | known hservice hspace hknown =>
      rw [resolveHost_known hservice hspace hknown] at h
      cases h
      exact ⟨hservice, hspace, .inl ⟨hknown, rfl⟩⟩
    | full hservice hspace =>
      rw [resolveHost_full hdomain hservice hspace] at h
      cases h
      exact ⟨hservice, hspace, .inr rfl⟩
  · rintro ⟨hservice, hspace, ⟨hknown, rfl⟩ | rfl⟩
    · exact resolveHost_known hservice hspace hknown
    · exact resolveHost_full hdomain hservice hspace

end

/-! ### Hosts of whole namespaces -/

/-- A host stands for a namespace when it leads to all services of it, from whatever namespace and
cluster it is seen and whatever namespaces are known, and names the namespace itself. -/
def StandsForNamespace (domain ns host : String) : Prop :=
  ∀ known context cluster,
    resolveHost domain known context cluster host = some ⟨cluster, ns, anyService, true⟩

/-- The service that stands for all services is a single label. -/
theorem isLabel_anyService : IsLabel anyService := ⟨by decide, by decide⟩

/-- The host of a namespace names all services of it in full. -/
theorem MeshSettings.namespaceWideHost_eq (settings : MeshSettings) (ns : String) :
    settings.namespaceWideHost ns =
      anyService ++ "." ++ ns ++ "." ++ settings.identityDomain := rfl

/-- The host of a namespace is the only host that stands for it. Another spelling leads there only
while the namespace is known. -/
theorem standsForNamespace_iff {settings : MeshSettings} {ns host : String}
    (hdomain : "" ∉ hostLabels settings.identityDomain) (hns : IsLabel ns) :
    StandsForNamespace settings.identityDomain ns host ↔ host = settings.namespaceWideHost ns := by
  rw [settings.namespaceWideHost_eq]
  constructor
  · intro h
    obtain ⟨-, -, ⟨hknown, -⟩ | hfull⟩ := (resolveHost_eq_complete_iff hdomain).1 (h [] "" "")
    · exact absurd hknown List.not_mem_nil
    · exact hfull
  · intro h known context cluster
    exact (resolveHost_eq_complete_iff hdomain).2 ⟨isLabel_anyService, hns, .inr h⟩

/-- The host of the mesh is the host of no namespace: after its first dot it has no other one. -/
theorem MeshSettings.namespaceWideHost_ne_meshWideHost (settings : MeshSettings) (ns : String) :
    settings.namespaceWideHost ns ≠ meshWideHost := by
  intro h
  have hchars := congrArg String.toList h
  have hrest : ns.toList ++ '.' :: settings.identityDomain.toList = "local".toList := by
    simpa [namespaceWideHost, meshWideHost] using hchars
  have hdot : '.' ∈ "local".toList := by
    rw [← hrest]
    exact List.mem_append_right _ List.mem_cons_self
  exact absurd hdot (by decide)

/-! ### Rules for whole namespaces -/

/-- A rule sets a mode for the host that it names only. -/
theorem host_eq_of_isSet {host : String} {rule : MeshObject}
    (h : (destinationRuleMode host rule).isSet = true) : rule.bodyText? ["host"] = some host := by
  by_contra hhost
  rw [destinationRuleMode_of_ne hhost] at h
  exact absurd h (by decide)

/-- A rule sets a mode for one host at most. -/
theorem eq_of_isSet_of_isSet {host other : String} {rule : MeshObject}
    (h : (destinationRuleMode host rule).isSet = true)
    (hother : (destinationRuleMode other rule).isSet = true) : host = other :=
  Option.some.inj ((host_eq_of_isSet h).symm.trans (host_eq_of_isSet hother))

/-- Different namespaces have different hosts, and none has that of the mesh, so a destination rule
sets a mode for one of them at most. The host of a namespace leads to all its services, and the mTLS
checks take only such a host for it. -/
theorem namespace_hosts_kept_apart {settings : Settings} (accepted : settings.validate = .ok ()) :
    let mesh := settings.mesh
    Function.Injective mesh.namespaceWideHost ∧
    (∀ ns, mesh.namespaceWideHost ns ≠ "*.local") ∧
    (∀ rule ns other, (namespaceWideMode mesh ns rule).isSet = true →
      (namespaceWideMode mesh other rule).isSet = true → ns = other) ∧
    (∀ rule, (meshWideMode rule).isSet = true → ∀ ns, namespaceWideMode mesh ns rule = .unset) ∧
    (∀ ns, IsLabel ns → ∀ known context cluster,
      resolveHost mesh.identityDomain known context cluster (mesh.namespaceWideHost ns) =
        some ⟨cluster, ns, "*", true⟩) ∧
    ∀ rule ns, IsLabel ns →
      ((namespaceWideMode mesh ns rule).isSet = true ↔
        ∃ host, rule.bodyText? ["host"] = some host ∧
          (destinationRuleMode host rule).isSet = true ∧
            StandsForNamespace mesh.identityDomain ns host) := by
  intro mesh
  have hdomain : "" ∉ hostLabels mesh.identityDomain :=
    not_mem_hostLabels_of_isDottedName (Settings.isDottedName_of_validate accepted)
  have hinjective : Function.Injective mesh.namespaceWideHost :=
    fun _ _ => MeshSettings.namespaceWideHost_inj.1
  have hapart := mesh.namespaceWideHost_ne_meshWideHost
  refine ⟨hinjective, hapart, fun rule ns other h hother => ?_, fun rule hwide ns => ?_,
    fun ns hns => ?_, fun rule ns hns => ?_⟩
  · exact hinjective (eq_of_isSet_of_isSet h hother)
  · by_contra hset
    have hset : (namespaceWideMode mesh ns rule).isSet = true := by
      simpa [MtlsMode.isSet] using hset
    exact hapart ns (eq_of_isSet_of_isSet hset hwide)
  · exact (standsForNamespace_iff hdomain hns).2 rfl
  · constructor
    · intro h
      exact ⟨_, host_eq_of_isSet h, h, (standsForNamespace_iff hdomain hns).2 rfl⟩
    · rintro ⟨host, -, hset, hstands⟩
      obtain rfl := (standsForNamespace_iff hdomain hns).1 hstands
      exact hset

/-- Under the identity domain `local` the host of a namespace ends as that of the mesh does, and the
two are kept apart all the same. -/
theorem namespace_hosts_kept_apart_local_domain :
    let settings : Settings := { mesh := { identityDomain := "local" } }
    let rule := hostRule "own" "bookinfo" "*.bookinfo.local" "DISABLE"
    let wide := hostRule "mesh" "istio-system" "*.local" "ISTIO_MUTUAL"
    (settings.validate = .ok () ∧ IsLabel "bookinfo" ∧
      (namespaceWideMode settings.mesh "bookinfo" rule).isSet = true ∧
      (meshWideMode wide).isSet = true) ∧
    (∀ ns, (namespaceWideMode settings.mesh ns rule).isSet = true → ns = "bookinfo") ∧
    (∀ ns, namespaceWideMode settings.mesh ns wide = .unset) ∧
    resolveHost "local" ["eshop"] "eshop" "east" "*.bookinfo.local" =
      some ⟨"east", "bookinfo", "*", true⟩ ∧
    ∃ host, rule.bodyText? ["host"] = some host ∧ StandsForNamespace "local" "bookinfo" host := by
  intro settings rule wide
  have haccepted : Settings.validate { mesh := { identityDomain := "local" } } = .ok () := by rfl
  have hns : IsLabel "bookinfo" := ⟨by decide, by decide⟩
  have hrule : (namespaceWideMode settings.mesh "bookinfo" rule).isSet = true := by decide
  have hwide : (meshWideMode wide).isSet = true := by decide
  obtain ⟨-, -, hone, hnone, hresolve, hagree⟩ := namespace_hosts_kept_apart haccepted
  obtain ⟨host, hhost, -, hstands⟩ := (hagree rule "bookinfo" hns).1 hrule
  exact ⟨⟨haccepted, hns, hrule, hwide⟩, fun ns h => hone rule ns "bookinfo" h hrule,
    hnone wide hwide, hresolve "bookinfo" hns ["eshop"] "eshop" "east", host, hhost, hstands⟩

end MeshAudit

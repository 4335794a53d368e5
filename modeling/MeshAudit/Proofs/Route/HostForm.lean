import MeshAudit.Proofs.Route.SharedHost
import MeshAudit.Settings.Validation

/-!
# Hosts that lead to one place

A host of a routing rule names a service of the mesh in one of three spellings, or it names a host
outside the mesh. This is its form. Two hosts lead to one place exactly when they have one form, so
the spellings of a service always meet and never meet an outside host.
-/

namespace MeshAudit

/-- A single label of a dotted name. -/
structure IsLabel (label : String) : Prop where
  /-- It is not empty. -/
  ne_empty : label ≠ ""
  /-- It has no dot. -/
  not_mem : '.' ∉ label.toList

/-- The spellings of a service of a namespace, seen from the namespace `ns`. -/
inductive NamesService (domain : String) (known : List String) (ns : String) :
    String → String → String → Prop where
  /-- A single label is a service of the namespace it is seen from. -/
  | short {service : String} (hservice : IsLabel service) :
    NamesService domain known ns service service ns
  /-- Two labels are a service and its namespace, if the namespace is known. -/
  | known {service space : String} (hservice : IsLabel service) (hspace : IsLabel space)
      (hknown : space ∈ known) :
    NamesService domain known ns (service ++ "." ++ space) service space
  /-- With the identity domain after them, they are in any namespace. -/
  | full {service space : String} (hservice : IsLabel service) (hspace : IsLabel space) :
    NamesService domain known ns (service ++ "." ++ space ++ "." ++ domain) service space

/-- What a host means once its spelling is forgotten. -/
inductive HostForm where
  /-- A service of a namespace of the mesh. -/
  | inside (service ns : String)
  /-- A host outside the mesh. -/
  | outside (host : String)
  deriving DecidableEq, Repr

/-- A host has the form of the service that it names, or is an outside host when it names none. -/
def HasForm (domain : String) (known : List String) (ns host : String) : HostForm → Prop
  | .inside service space => NamesService domain known ns host service space
  | .outside other =>
    other = host ∧ ∀ service space, ¬ NamesService domain known ns host service space

/-- Cluster, namespace and service that a host leads to. -/
def ResolvedHost.place (host : ResolvedHost) : String × String × String :=
  (host.cluster, host.ns, host.service)

/-- Cluster, namespace and service of a form, seen from a namespace and a cluster. An outside host
counts as a service of the namespace it is seen from. -/
def HostForm.place (ns cluster : String) : HostForm → String × String × String
  | .inside service space => (cluster, space, service)
  | .outside host => (cluster, ns, host)

section

variable {domain : String} {known : List String} {ns cluster host : String}

/-- The service that a host names is a single label. -/
theorem NamesService.isLabel {service space : String}
    (h : NamesService domain known ns host service space) : IsLabel service := by
  cases h with
  | short hservice => exact hservice
  | known hservice _ _ => exact hservice
  | full hservice _ => exact hservice

/-- A host leads nowhere exactly when it has an empty label. -/
theorem resolveHost_eq_none_iff :
    resolveHost domain known ns cluster host = none ↔ "" ∈ hostLabels host := by
  unfold resolveHost
  constructor
  · intro h
    by_contra hempty
    simp only [if_neg hempty] at h
    split at h
    · cases h
    · split at h <;> cases h
    · split at h <;> cases h
    · cases h
  · intro h
    exact if_pos h

/-- A single label leads to the service of that name in the namespace it is seen from. -/
theorem resolveHost_short {service : String} (hservice : IsLabel service) :
    resolveHost domain known ns cluster service = some ⟨cluster, ns, service, false⟩ := by
  have hlabels := hostLabels_of_not_mem hservice.not_mem
  simp [resolveHost, hlabels, hservice.ne_empty.symm]

/-- A service followed by a known namespace leads there. -/
theorem resolveHost_known {service space : String} (hservice : IsLabel service)
    (hspace : IsLabel space) (hknown : space ∈ known) :
    resolveHost domain known ns cluster (service ++ "." ++ space) =
      some ⟨cluster, space, service, true⟩ := by
  have hlabels : hostLabels (service ++ "." ++ space) = [service, space] := by
    rw [hostLabels_append hservice.not_mem, hostLabels_of_not_mem hspace.not_mem]
  simp [resolveHost, hlabels, hservice.ne_empty.symm, hspace.ne_empty.symm, hknown]

/-- A service followed by any namespace and the identity domain leads there. -/
theorem resolveHost_full (hdomain : "" ∉ hostLabels domain) {service space : String}
    (hservice : IsLabel service) (hspace : IsLabel space) :
    resolveHost domain known ns cluster (service ++ "." ++ space ++ "." ++ domain) =
      some ⟨cluster, space, service, true⟩ := by
  have hassoc : service ++ "." ++ space ++ "." ++ domain =
      service ++ "." ++ (space ++ "." ++ domain) := by simp [String.append_assoc]
  have hlabels : hostLabels (service ++ "." ++ space ++ "." ++ domain) =
      service :: space :: hostLabels domain := by
    rw [hassoc, hostLabels_append hservice.not_mem, hostLabels_append hspace.not_mem]
  have hjoin := intercalate_hostLabels domain
  obtain ⟨first, rest, hfirst⟩ := List.exists_cons_of_ne_nil (hostLabels_ne_nil domain)
  rw [hfirst] at hlabels hjoin hdomain
  simp only [List.mem_cons, not_or] at hdomain
  simp [resolveHost, hlabels, hjoin, hservice.ne_empty.symm, hspace.ne_empty.symm, hdomain]

/-- A host that names a service leads to it. -/
theorem resolveHost_of_namesService (cluster : String) (hdomain : "" ∉ hostLabels domain)
    {service space : String} (h : NamesService domain known ns host service space) :
    ∃ complete, resolveHost domain known ns cluster host =
      some ⟨cluster, space, service, complete⟩ := by
  cases h with
  | short hservice => exact ⟨false, resolveHost_short hservice⟩
  | known hservice hspace hknown => exact ⟨true, resolveHost_known hservice hspace hknown⟩
  | full hservice hspace => exact ⟨true, resolveHost_full hdomain hservice hspace⟩

/-- A label of a host without empty labels is a single label. -/
theorem isLabel_of_mem_hostLabels {label : String} (hempty : "" ∉ hostLabels host)
    (h : label ∈ hostLabels host) : IsLabel label where
  ne_empty := by
    rintro rfl
    exact hempty h
  not_mem := not_mem_of_mem_hostLabels h

/-- A host that leads somewhere but names no service is kept whole, and has a dot. -/
theorem resolveHost_of_not_namesService (cluster : String) (hempty : "" ∉ hostLabels host)
    (h : ∀ service space, ¬ NamesService domain known ns host service space) :
    resolveHost domain known ns cluster host = some ⟨cluster, ns, host, false⟩ ∧
      '.' ∈ host.toList := by
  have hlabel : ∀ label ∈ hostLabels host, IsLabel label :=
    fun label hmem => isLabel_of_mem_hostLabels hempty hmem
  have hjoin := intercalate_hostLabels host
  have hdot : '.' ∈ host.toList := by
    by_contra hdot
    have hlabels := hostLabels_of_not_mem hdot
    have hhost : IsLabel host := hlabel host (by simp [hlabels])
    exact h host ns (.short hhost)
  refine ⟨?_, hdot⟩
  -- each spelling of a service is excluded by the labels that it would have
  match hlabels : hostLabels host with
  | [] => exact absurd hlabels (hostLabels_ne_nil host)
  | [service] =>
    rw [hlabels, String.intercalate_singleton] at hjoin
    have hnodot := (hlabel service (by simp [hlabels])).not_mem
    exact absurd (hjoin ▸ hdot) hnodot
  | [service, space] =>
    have hservice := hlabel service (by simp [hlabels])
    have hspace := hlabel space (by simp [hlabels])
    have hhost : service ++ "." ++ space = host := by simpa [hlabels] using hjoin
    have hunknown : space ∉ known := by
      intro hknown
      exact h service space (hhost ▸ .known hservice hspace hknown)
    rw [hlabels] at hempty
    simp [resolveHost, hlabels, hempty, hunknown]
  | service :: space :: label :: rest =>
    have hservice := hlabel service (by simp [hlabels])
    have hspace := hlabel space (by simp [hlabels])
    have hforeign : String.intercalate "." (label :: rest) ≠ domain := by
      intro hdomain
      have hhost : service ++ "." ++ space ++ "." ++ domain = host := by
        rw [← hjoin, hlabels, ← hdomain]
        simp [String.append_assoc]
      exact h service space (hhost ▸ .full hservice hspace)
    rw [hlabels] at hempty
    simp only [resolveHost, hlabels, if_neg hempty, if_neg hforeign]

/-- A host that leads somewhere has no empty label. -/
theorem not_mem_hostLabels_of_resolveHost {r : ResolvedHost}
    (h : resolveHost domain known ns cluster host = some r) : "" ∉ hostLabels host := by
  intro hmem
  rw [resolveHost_eq_none_iff.2 hmem] at h
  cases h

/-- A host leads to the place of its form. -/
theorem place_of_hasForm (hdomain : "" ∉ hostLabels domain) {form : HostForm} {r : ResolvedHost}
    (hform : HasForm domain known ns host form)
    (h : resolveHost domain known ns cluster host = some r) :
    r.place = form.place ns cluster := by
  have hempty := not_mem_hostLabels_of_resolveHost h
  cases form with
  | inside service space =>
    obtain ⟨complete, hresolve⟩ := resolveHost_of_namesService cluster hdomain hform
    rw [h] at hresolve
    cases hresolve
    rfl
  | outside other =>
    obtain ⟨rfl, hnone⟩ := hform
    have hresolve := (resolveHost_of_not_namesService cluster hempty hnone).1
    rw [h] at hresolve
    cases hresolve
    rfl

/-- An outside host that leads somewhere is no single label. -/
theorem not_isLabel_of_outside {outer : String} (hempty : "" ∉ hostLabels host)
    (hform : HasForm domain known ns host (.outside outer)) : ¬ IsLabel outer := by
  obtain ⟨rfl, hnone⟩ := hform
  exact fun hlabel =>
    hlabel.not_mem (resolveHost_of_not_namesService "" hempty hnone).2

/-- Forms of hosts that lead somewhere have different places: the service of a place is a single
label for a service of the mesh, and is none for an outside host. -/
theorem eq_of_place_eq {other : String} {form formOther : HostForm}
    (hempty : "" ∉ hostLabels host) (hemptyOther : "" ∉ hostLabels other)
    (hform : HasForm domain known ns host form)
    (hformOther : HasForm domain known ns other formOther)
    (h : form.place ns cluster = formOther.place ns cluster) : form = formOther := by
  have hname : (form.place ns cluster).2.2 = (formOther.place ns cluster).2.2 := by rw [h]
  cases form with
  | inside service space =>
    have hlabel : IsLabel service := NamesService.isLabel hform
    cases formOther with
    | inside serviceOther spaceOther =>
      obtain ⟨-, hplace⟩ := Prod.ext_iff.1 h
      obtain ⟨hspace, hservice⟩ := Prod.ext_iff.1 hplace
      exact congrArg₂ HostForm.inside hservice hspace
    | outside outer =>
      have hname : service = outer := hname
      exact absurd (hname ▸ hlabel) (not_isLabel_of_outside hemptyOther hformOther)
  | outside outer =>
    cases formOther with
    | inside serviceOther spaceOther =>
      have hlabel : IsLabel serviceOther := NamesService.isLabel hformOther
      have hname : outer = serviceOther := hname
      exact absurd (hname ▸ hlabel) (not_isLabel_of_outside hempty hform)
    | outside outerOther => exact congrArg HostForm.outside hname

/-- Every host has a form. -/
theorem exists_hasForm (domain : String) (known : List String) (ns host : String) :
    ∃ form, HasForm domain known ns host form := by
  by_cases h : ∃ service space, NamesService domain known ns host service space
  · obtain ⟨service, space, hnames⟩ := h
    exact ⟨.inside service space, hnames⟩
  · push Not at h
    exact ⟨.outside host, rfl, h⟩

/-- A host that leads somewhere has one form: both its forms would have the place it leads to. -/
theorem existsUnique_hasForm (hdomain : "" ∉ hostLabels domain) {r : ResolvedHost}
    (h : resolveHost domain known ns cluster host = some r) :
    ∃! form, HasForm domain known ns host form := by
  have hempty := not_mem_hostLabels_of_resolveHost h
  obtain ⟨form, hform⟩ := exists_hasForm domain known ns host
  refine ⟨form, hform, fun other hother => ?_⟩
  have hplace := (place_of_hasForm hdomain hother h).symm.trans (place_of_hasForm hdomain hform h)
  exact eq_of_place_eq hempty hempty hother hform hplace

/-- A host leads to a service that has a name. -/
theorem service_ne_empty_of_resolveHost (hdomain : "" ∉ hostLabels domain) {r : ResolvedHost}
    (h : resolveHost domain known ns cluster host = some r) : r.service ≠ "" := by
  have hempty := not_mem_hostLabels_of_resolveHost h
  obtain ⟨form, hform⟩ := exists_hasForm domain known ns host
  have hname : r.service = (form.place ns cluster).2.2 := by
    rw [← place_of_hasForm hdomain hform h]
    rfl
  rw [hname]
  cases form with
  | inside service space => exact (NamesService.isLabel hform).ne_empty
  | outside outer =>
    obtain ⟨rfl, -⟩ := hform
    rintro rfl
    have hlabels : hostLabels "" = [""] := hostLabels_of_not_mem List.not_mem_nil
    exact hempty (by simp [hlabels])

/-- Two hosts lead to one place exactly when they have one form. -/
theorem place_eq_iff_form_eq (hdomain : "" ∉ hostLabels domain) {other : String}
    {r s : ResolvedHost} {form formOther : HostForm}
    (h : resolveHost domain known ns cluster host = some r)
    (hother : resolveHost domain known ns cluster other = some s)
    (hform : HasForm domain known ns host form)
    (hformOther : HasForm domain known ns other formOther) :
    r.place = s.place ↔ form = formOther := by
  rw [place_of_hasForm hdomain hform h, place_of_hasForm hdomain hformOther hother]
  constructor
  · exact eq_of_place_eq (not_mem_hostLabels_of_resolveHost h)
      (not_mem_hostLabels_of_resolveHost hother) hform hformOther
  · intro heq
    rw [heq]

end

/-- Two hosts make one claim on a gateway exactly when they lead to one place. -/
theorem ResolvedHost.claimOn_eq_iff {r s : ResolvedHost} {gateway : String} :
    r.claimOn gateway = s.claimOn gateway ↔ r.place = s.place := by
  simp [ResolvedHost.claimOn, ResolvedHost.place]

/-- Where the identity domain is valid, a host leads somewhere exactly when no label of it is empty,
and two such hosts lead to one place exactly when they have the same form. So the three spellings of
a service make one claim. -/
theorem resolveHost_exact {settings : Settings} (accepted : settings.validate = .ok ())
    (known : List String) (ns cluster : String) :
    let domain := settings.mesh.identityDomain
    let resolve := resolveHost domain known ns cluster
    (∀ host, resolve host = none ↔ "" ∈ hostLabels host) ∧
    (∀ host r, resolve host = some r →
      r.cluster = cluster ∧ r.service ≠ "" ∧ ∃! form, HasForm domain known ns host form) ∧
    (∀ host other r s, resolve host = some r → resolve other = some s →
      ∀ form formOther, HasForm domain known ns host form →
        HasForm domain known ns other formOther →
          ((r.cluster, r.ns, r.service) = (s.cluster, s.ns, s.service) ↔ form = formOther)) ∧
    (IsLabel ns → ns ∈ known → ∀ service, IsLabel service →
      ∃ short two full, resolve service = some short ∧
        resolve (service ++ "." ++ ns) = some two ∧
        resolve (service ++ "." ++ ns ++ "." ++ domain) = some full ∧
        ∀ gateway, short.claimOn gateway = two.claimOn gateway ∧
          two.claimOn gateway = full.claimOn gateway) ∧
    ∀ host other service space r s, resolve host = some r → resolve other = some s →
      HasForm domain known ns host (.outside host) →
        HasForm domain known ns other (.inside service space) →
          ∀ gateway, r.claimOn gateway ≠ s.claimOn gateway := by
  intro domain resolve
  have hdomain : "" ∉ hostLabels domain :=
    not_mem_hostLabels_of_isDottedName (Settings.isDottedName_of_validate accepted)
  refine ⟨fun host => resolveHost_eq_none_iff, fun host r h => ?_, ?_, ?_, ?_⟩
  · exact ⟨cluster_of_resolveHost h, service_ne_empty_of_resolveHost hdomain h,
      existsUnique_hasForm hdomain h⟩
  · intro host other r s h hother form formOther hform hformOther
    exact place_eq_iff_form_eq hdomain h hother hform hformOther
  · intro hns hknown service hservice
    have hshort : NamesService domain known ns service service ns := .short hservice
    have htwo : NamesService domain known ns (service ++ "." ++ ns) service ns :=
      .known hservice hns hknown
    have hfull : NamesService domain known ns (service ++ "." ++ ns ++ "." ++ domain) service ns :=
      .full hservice hns
    obtain ⟨_, hshort⟩ := resolveHost_of_namesService cluster hdomain hshort
    obtain ⟨_, htwo⟩ := resolveHost_of_namesService cluster hdomain htwo
    obtain ⟨_, hfull⟩ := resolveHost_of_namesService cluster hdomain hfull
    exact ⟨_, _, _, hshort, htwo, hfull, fun gateway => ⟨rfl, rfl⟩⟩
  · intro host other service space r s h hother hform hformOther gateway hclaim
    have hplace := ResolvedHost.claimOn_eq_iff.1 hclaim
    have heq := (place_eq_iff_form_eq hdomain h hother hform hformOther).1 hplace
    cases heq

/-- In the namespace `bookinfo` a service has three names that meet, and a host in an unknown namespace
does not meet it. -/
theorem resolveHost_exact_reviews :
    let settings : Settings := {}
    let resolve := resolveHost settings.mesh.identityDomain ["bookinfo", "eshop"] "bookinfo" "east"
    let HasForm := HasForm settings.mesh.identityDomain ["bookinfo", "eshop"] "bookinfo"
    (settings.validate = .ok () ∧ IsLabel "bookinfo" ∧ IsLabel "reviews" ∧
      HasForm "reviews.unknown" (.outside "reviews.unknown") ∧
      HasForm "reviews" (.inside "reviews" "bookinfo")) ∧
    (∃ short two full, resolve "reviews" = some short ∧ resolve "reviews.bookinfo" = some two ∧
      resolve "reviews.bookinfo.svc.cluster.local" = some full ∧
        short.claimOn noGateway = two.claimOn noGateway ∧
          two.claimOn noGateway = full.claimOn noGateway) ∧
    ∃ unknown short, resolve "reviews.unknown" = some unknown ∧ resolve "reviews" = some short ∧
      unknown.claimOn noGateway ≠ short.claimOn noGateway := by
  intro settings resolve HasForm
  have haccepted : settings.validate = .ok () := Settings.validate_default
  have hns : IsLabel "bookinfo" := ⟨by decide, by decide⟩
  have hservice : IsLabel "reviews" := ⟨by decide, by decide⟩
  have hunknown : resolve "reviews.unknown" =
      some ⟨"east", "bookinfo", "reviews.unknown", false⟩ := by decide
  have hshort : resolve "reviews" = some ⟨"east", "bookinfo", "reviews", false⟩ := by decide
  have hinside : HasForm "reviews" (.inside "reviews" "bookinfo") := .short hservice
  have houtside : HasForm "reviews.unknown" (.outside "reviews.unknown") := by
    refine ⟨rfl, fun service space h => ?_⟩
    obtain ⟨_, hresolve⟩ := resolveHost_of_namesService "east" (by decide) h
    have hname : service = "reviews.unknown" := by
      have hsome := hunknown.symm.trans hresolve
      cases hsome
      rfl
    exact absurd (hname ▸ h.isLabel.not_mem) (by decide)
  obtain ⟨-, -, -, hmeet, hapart⟩ :=
    resolveHost_exact haccepted ["bookinfo", "eshop"] "bookinfo" "east"
  obtain ⟨short, two, full, hone, htwo, hfull, hclaims⟩ := hmeet hns (.head _) "reviews" hservice
  have hne := hapart _ _ _ _ _ _ hunknown hshort houtside hinside noGateway
  exact ⟨⟨haccepted, hns, hservice, houtside, hinside⟩,
    ⟨short, two, full, hone, htwo, hfull, hclaims noGateway⟩, _, _, hunknown, hshort, hne⟩

end MeshAudit

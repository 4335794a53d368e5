import Mathlib.Data.List.Forall2
import Mathlib.Data.List.Nodup
import MeshAudit.Proofs.Gateway.HostPlace

/-!
# Every exposed host has one binding

The bindings of a gateway follow the texts that it exposes in the order of the body, one for each, and
whatever else stands among the servers or the hosts has none. A binding is told from all others of
its gateway by its path.
-/

namespace MeshAudit

/-- Before a later position stand more items of a kind, if the item at the earlier one is of it. -/
theorem countP_take_lt_of_lt {α : Type} {p : α → Bool} {items : List α} {i j : Nat} {item : α}
    (hitem : items[i]? = some item) (hp : p item = true) (hlt : i < j) :
    (items.take i).countP p < (items.take j).countP p := by
  have hnext : (items.take (i + 1)).countP p = (items.take i).countP p + 1 := by
    rw [List.take_add_one, hitem, List.countP_append]
    simp [hp]
  have hprefix : (items.take (i + 1)).Sublist (items.take j) :=
    (List.take_prefix_take_left hlt).sublist
  have hle : (items.take (i + 1)).countP p ≤ (items.take j).countP p := hprefix.countP_le
  omega

/-- Bindings of different texts have different paths: the servers differ, or the earlier text counts
for the place of the later one. -/
theorem ExposesAt.path_ne {gateway : MeshObject} {position later : Nat × Nat}
    {binding other : HostBinding} (h : ExposesAt gateway position binding)
    (hlater : ExposesAt gateway later other)
    (hlt : Prod.Lex (· < ·) (· < ·) position later) : binding.path ≠ other.path := by
  intro hpath
  obtain ⟨hserver, hhost⟩ := HostBinding.path_eq_iff.1 hpath
  cases h with
  | intro hservers hfields hitems hitem =>
    cases hlater with
    | intro hserversLater hfieldsLater hitemsLater _ =>
      -- one server has one host list, in which the later text has the earlier one before it
      obtain rfl := hserver
      cases hservers.symm.trans hserversLater
      cases hfields.symm.trans hfieldsLater
      cases hitems.symm.trans hitemsLater
      cases hlt with
      | left _ _ hlt => exact Nat.lt_irrefl _ hlt
      | right _ hlt =>
        have hmore := countP_take_lt_of_lt (p := isText) hitem rfl hlt
        exact Nat.ne_of_lt hmore hhost

/-- The bindings of a gateway follow the texts that it exposes in the order of the body, one for each,
whatever stands between them. No two of them share a path, so that a path of a gateway names one
binding. -/
theorem hostBindings_enumerate (gateway : MeshObject) :
    (∃ positions : List (Nat × Nat),
      positions.Pairwise (Prod.Lex (· < ·) (· < ·)) ∧
      (∀ position, position ∈ positions ↔ ∃ binding, ExposesAt gateway position binding) ∧
      List.Forall₂ (ExposesAt gateway) positions (hostBindings gateway)) ∧
    ((hostBindings gateway).map HostBinding.path).Nodup ∧
    ∀ binding ∈ hostBindings gateway, ∃! other, other ∈ hostBindings gateway ∧
      other.path = binding.path := by
  have hmem : ∀ exposure ∈ exposures gateway, ExposesAt gateway exposure.1 exposure.2 :=
    fun _ h => mem_exposures.1 h
  have hpaths : ((hostBindings gateway).map HostBinding.path).Nodup := by
    rw [← map_snd_exposures, List.map_map, List.Nodup, List.pairwise_map]
    exact (pairwise_exposures gateway).imp_of_mem fun ha hb hlt =>
      (hmem _ ha).path_ne (hmem _ hb) hlt
  refine ⟨⟨(exposures gateway).map Prod.fst, List.pairwise_map.2 (pairwise_exposures gateway),
    fun position => ?_, ?_⟩, hpaths, fun binding hbinding => ?_⟩
  · rw [List.mem_map]
    constructor
    · rintro ⟨exposure, h, rfl⟩
      exact ⟨exposure.2, hmem exposure h⟩
    · rintro ⟨binding, h⟩
      exact ⟨(position, binding), mem_exposures.2 h, rfl⟩
  · rw [← map_snd_exposures, List.forall₂_map_left_iff, List.forall₂_map_right_iff,
      List.forall₂_same]
    exact hmem
  · refine ⟨binding, ⟨hbinding, rfl⟩, fun other h => ?_⟩
    exact List.inj_on_of_nodup_map hpaths h.1 hbinding h.2

/-- A gateway with a server that is no object, one with a number among its hosts, one with a text as
its port and one without a port. -/
def unevenGateway : MeshObject :=
  { kind := .gateway, name := "uneven", ns := "bookinfo"
    spec := .object [("servers", .array [.string "no-server",
      .object [("hosts", .array [.integer 7, .string "Reviews.com"]),
        ("port", .object [("number", .string "80")])],
      .object [("hosts", .array [.string "reviews.com"]),
        ("port", .object [("number", .integer 80)])],
      .object [("hosts", .array [.string "ratings.com"])]])] }

/-- The scan goes on after what is no server and no host, so that the gateway has three bindings, and
the path of each names it alone. -/
theorem hostBindings_enumerate_uneven :
    let first : HostBinding := ⟨.ofObject unevenGateway, 80, "reviews.com", 1, 0⟩
    let last : HostBinding := ⟨.ofObject unevenGateway, 0, "ratings.com", 3, 0⟩
    (first ∈ hostBindings unevenGateway ∧ last ∈ hostBindings unevenGateway) ∧
    (∃ positions : List (Nat × Nat), positions.length = 3 ∧
      ∀ position, position ∈ positions ↔ ∃ binding, ExposesAt unevenGateway position binding) ∧
    (∃! other, other ∈ hostBindings unevenGateway ∧ other.path = "spec/servers[1]/hosts[0]") ∧
    ∃! other, other ∈ hostBindings unevenGateway ∧ other.path = "spec/servers[3]/hosts[0]" := by
  intro first last
  have hfirst : first ∈ hostBindings unevenGateway := by decide
  have hlast : last ∈ hostBindings unevenGateway := by decide
  have hfirstPath : first.path = "spec/servers[1]/hosts[0]" := by decide
  have hlastPath : last.path = "spec/servers[3]/hosts[0]" := by decide
  have hcount : (hostBindings unevenGateway).length = 3 := by decide
  obtain ⟨⟨positions, -, hpositions, hbindings⟩, -, hunique⟩ := hostBindings_enumerate unevenGateway
  exact ⟨⟨hfirst, hlast⟩, ⟨positions, hbindings.length_eq.trans hcount, hpositions⟩,
    hfirstPath ▸ hunique first hfirst, hlastPath ▸ hunique last hlast⟩

end MeshAudit

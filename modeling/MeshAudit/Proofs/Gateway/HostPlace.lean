import MeshAudit.Proofs.Gateway.Selector

/-!
# Where the path of a binding points

The path of a binding names a server by its position among all servers, and a host by its place
among the texts of the host list. So it leads to the server of the host in any case, and to the
position of the host where the host list holds nothing but texts before it; where it holds something
else there, the position is greater than the place.
-/

namespace MeshAudit

/-! ### Paths -/

/-- A number is told by its digits, and they end at a closing bracket. -/
theorem toDigits_append_bracket_inj {m n : Nat} {rest restOther : List Char}
    (h : Nat.toDigits 10 m ++ ']' :: rest = Nat.toDigits 10 n ++ ']' :: restOther) :
    m = n ∧ rest = restOther := by
  have hbracket : ∀ k : Nat, ']' ∉ Nat.toDigits 10 k := by
    intro k hmem
    have hdigit := Nat.isDigit_of_mem_toDigits (by decide) (by decide) hmem
    exact absurd hdigit (by decide)
  obtain ⟨hdigits, hrest⟩ := append_cons_inj_of_not_mem (hbracket m) (hbracket n) h
  have hnumber := congrArg (fun digits => Nat.ofDigitChars 10 digits 0) hdigits
  simp only [Nat.ofDigitChars_ten_toDigits] at hnumber
  exact ⟨hnumber, hrest⟩

/-- The characters of a path. -/
theorem toList_hostPath (server place : Nat) :
    s!"spec/servers[{server}]/hosts[{place}]".toList =
      "spec/servers[".toList ++ (Nat.toDigits 10 server ++ ']' ::
        ("/hosts[".toList ++ (Nat.toDigits 10 place ++ [']']))) := by
  have hhosts : "]/hosts[".toList = ']' :: "/hosts[".toList := rfl
  have hclose : "]".toList = [']'] := rfl
  have hstrings : ∀ s : String, toString s = s := fun _ => rfl
  simp only [String.toList_append, hstrings, hhosts, hclose, Nat.toString_eq_ofList_toDigits,
    String.toList_ofList, List.append_assoc, List.cons_append]

/-- A path names one server and one place. -/
theorem HostBinding.path_eq_iff {binding : HostBinding} {server place : Nat} :
    binding.path = s!"spec/servers[{server}]/hosts[{place}]" ↔
      binding.server = server ∧ binding.host = place := by
  constructor
  · intro h
    have hown := toList_hostPath binding.server binding.host
    have hgiven := toList_hostPath server place
    have hchars := hown.symm.trans ((congrArg String.toList h).trans hgiven)
    have hnumbers := List.append_cancel_left hchars
    obtain ⟨hserver, hrest⟩ := toDigits_append_bracket_inj hnumbers
    obtain ⟨hplace, -⟩ := toDigits_append_bracket_inj (List.append_cancel_left hrest)
    exact ⟨hserver, hplace⟩
  · rintro ⟨rfl, rfl⟩
    rfl

/-! ### Places of hosts -/

/-- A host name is the text at a place among the texts of the host list of a server. Before its
position in the list stand as many texts, so the position is the place where nothing else stands
there. -/
def NamesHost (gateway : MeshObject) (server place : Nat) (hostname : String) : Prop :=
  ∃ servers fields items position host,
    gateway.body? ["servers"] = some (.array servers) ∧
    servers[server]? = some (.object fields) ∧
    fields.lookup "hosts" = some (.array items) ∧
    items[position]? = some (.string host) ∧
    Text.lowercase host = hostname ∧
    (items.take position).countP isText = place ∧
    (position = place ↔ ∀ item ∈ items.take position, isText item = true)

/-- As many texts as items stand before a position when all the items there are texts. -/
theorem position_eq_countP_iff {items : List Value} {position : Nat} {item : Value}
    (h : items[position]? = some item) :
    position = (items.take position).countP isText ↔
      ∀ before ∈ items.take position, isText before = true := by
  obtain ⟨hlt, -⟩ := List.getElem?_eq_some_iff.1 h
  have hlength : (items.take position).length = position := by
    rw [List.length_take]
    omega
  rw [← List.countP_eq_length, hlength, eq_comm]

/-- Every binding of a gateway is at its place. -/
theorem namesHost_of_mem_hostBindings {gateway : MeshObject} {binding : HostBinding}
    (h : binding ∈ hostBindings gateway) :
    NamesHost gateway binding.server binding.host binding.hostname := by
  obtain ⟨position, h⟩ := mem_hostBindings.1 h
  cases h with
  | intro hservers hserver hitems hitem =>
    exact ⟨_, _, _, _, _, hservers, hserver, hitems, hitem, rfl, rfl,
      position_eq_countP_iff hitem⟩

/-- Every path of a gateway names a host of it at its place, whatever else stands in the body. So
every finding on overlapping gateways names a host in its own gateway that is in conflict with
another one. -/
theorem host_paths_name_hosts (groups : List (List MeshObject)) :
    (∀ gateway, ∀ binding ∈ hostBindings gateway, ∀ server place,
      binding.path = s!"spec/servers[{server}]/hosts[{place}]" →
        NamesHost gateway server place binding.hostname) ∧
    ∀ key, ∀ finding ∈ (gatewayGraph groups.flatten).findings key,
      ∃ gateway ∈ groups.flatten, ObjectKey.ofObject gateway = key ∧
        ∃ b c, (b, c) ∈ conflictPairs (groups.flatten.flatMap scopedBindings) ∧
          b.1 ∈ scopedBindings gateway ∧
          finding.path = s!"spec/servers[{b.1.binding.server}]/hosts[{b.1.binding.host}]" ∧
          NamesHost gateway b.1.binding.server b.1.binding.host b.1.binding.hostname := by
  refine ⟨fun gateway binding hbinding server place hpath => ?_, fun key finding hfinding => ?_⟩
  · obtain ⟨rfl, rfl⟩ := HostBinding.path_eq_iff.1 hpath
    exact namesHost_of_mem_hostBindings hbinding
  · have hmem := (findings_gatewayGraph_perm groups.flatten key).mem_iff.1 hfinding
    obtain ⟨⟨b, c⟩, hpair, rfl⟩ := List.mem_map.1 hmem
    obtain ⟨hpair, hkey⟩ := List.mem_filter.1 hpair
    obtain ⟨hb, -, -, -⟩ := mem_conflictPairs.1 hpair
    obtain ⟨gateway, hgateway, hb⟩ := List.mem_flatMap.1 (List.fst_mem_of_mem_zipIdx hb)
    have howner : ObjectKey.ofObject gateway = key :=
      (owner_of_mem_scopedBindings hb).symm.trans (by simpa using hkey)
    have hname : NamesHost gateway b.1.binding.server b.1.binding.host b.1.binding.hostname :=
      namesHost_of_mem_hostBindings (mem_scopedBindings.1 hb).1
    exact ⟨gateway, hgateway, howner, b, c, hpair, hb, rfl, hname⟩

/-- A gateway with one server for some hosts. -/
def gatewayForHosts (name : String) (hosts : List Value) : MeshObject :=
  { kind := .gateway, name, ns := "bookinfo"
    spec := .object [("servers", .array [.object [("hosts", .array hosts)]])] }

/-- After a number the second host is at place one, and the finding on its conflict with another
gateway names it there. -/
theorem host_paths_name_hosts_after_number :
    let odd := gatewayForHosts "odd" [.integer 7, .string "reviews.com", .string "ratings.com"]
    let plain := gatewayForHosts "plain" [.string "ratings.com"]
    NamesHost odd 0 1 "ratings.com" ∧
    ∃ finding ∈ (gatewayGraph [odd, plain]).findings (.ofObject odd),
      finding.path = "spec/servers[0]/hosts[1]" ∧
        ∃ gateway ∈ [odd, plain], ObjectKey.ofObject gateway = .ofObject odd ∧
          ∃ b : HostBinding, finding.path = s!"spec/servers[{b.server}]/hosts[{b.host}]" ∧
            NamesHost gateway b.server b.host b.hostname := by
  intro odd plain
  let binding : HostBinding := ⟨.ofObject odd, 0, "ratings.com", 0, 1⟩
  let finding := Check.gatewayMultiMatch.at "spec/servers[0]/hosts[1]"
  have hbinding : binding ∈ hostBindings odd := by decide
  have hfinding : finding ∈ (gatewayGraph [odd, plain]).findings (.ofObject odd) := by decide
  obtain ⟨hplaces, hfindings⟩ := host_paths_name_hosts [[odd], [plain]]
  obtain ⟨gateway, hgateway, howner, b, -, -, -, hpath, hname⟩ := hfindings _ finding hfinding
  exact ⟨hplaces odd binding hbinding 0 1 rfl, finding, hfinding, rfl, gateway, hgateway, howner,
    b.1.binding, hpath, hname⟩

/-- A number in front of the hosts is not counted by their paths, so that what stands at the index of
the first path is no host, and at the index of the second path stands the first host. -/
theorem number_before_hosts_shifts_paths :
    let gateway := gatewayForHosts "odd" [.integer 7, .string "reviews.com", .string "ratings.com"]
    (hostBindings gateway).map (fun binding => (binding.path, binding.hostname)) =
      [("spec/servers[0]/hosts[0]", "reviews.com"), ("spec/servers[0]/hosts[1]", "ratings.com")] ∧
    gateway.bodyText? ["servers", "0", "hosts", "0"] = none ∧
    gateway.bodyText? ["servers", "0", "hosts", "1"] = some "reviews.com" := by
  decide

end MeshAudit

import MeshAudit.Proofs.Analysis.Contents
import MeshAudit.Proofs.Graph.MergeAlgebra

/-!
# The order in which an analysis merges

The checks of an analysis speak of different kinds of objects, and the check of shared hosts makes
one graph for each namespace, which speaks of that namespace only. So neither the order of the four
graphs nor the order of the namespaces matters to the analysis, which follows from the algebra of
merging.
-/

namespace MeshAudit

/-! ### Virtual services of different namespaces -/

/-- The graphs of virtual services that share no namespace are apart. -/
theorem apart_sharedHostGraph (settings : MeshSettings) (known : List String)
    {services others : List MeshObject}
    (h : ∀ service ∈ services, ∀ other ∈ others, service.ns ≠ other.ns) :
    (sharedHostGraph settings known services).Apart (sharedHostGraph settings known others) := by
  intro key
  by_cases hleft : (sharedHostGraph settings known services).findings key = []
  · exact .inl hleft
  · by_cases hright : (sharedHostGraph settings known others).findings key = []
    · exact .inr hright
    · obtain ⟨service, hservice, hkey⟩ := onlyAbout_sharedHostGraph settings known services key hleft
      obtain ⟨other, hother, hkeyOther⟩ :=
        onlyAbout_sharedHostGraph settings known others key hright
      have hns : service.ns = other.ns :=
        (congrArg ObjectKey.ns hkey).trans (congrArg ObjectKey.ns hkeyOther).symm
      exact absurd hns (h service hservice other hother)

/-- Two groups of objects by namespace share no namespace. -/
theorem pairwise_byNamespace (objects : List MeshObject) :
    (byNamespace objects).Pairwise fun group others =>
      ∀ object ∈ group, ∀ other ∈ others, object.ns ≠ other.ns := by
  refine List.pairwise_map.2 ?_
  have hnodup := SortedSet.nodup_toList (SortedSet.ofList (objects.map MeshObject.ns))
  refine hnodup.imp fun {ns nsOther} hne => ?_
  intro object hobject other hother
  have hns : object.ns = ns := by simpa using (List.mem_filter.1 hobject).2
  have hnsOther : other.ns = nsOther := by simpa using (List.mem_filter.1 hother).2
  rw [hns, hnsOther]
  exact hne

namespace MeshSettings

variable (settings : MeshSettings)

/-- The graph of the virtual services does not depend on the order of the namespaces. -/
theorem foldl_merge_sharedHostGraph (snapshot : Snapshot) {groups : List (List MeshObject)}
    (h : groups.Perm (byNamespace snapshot.virtualServices)) :
    (groups.map (sharedHostGraph settings snapshot.namespaces)).foldl Graph.merge ∅ =
      settings.virtualServiceFindings snapshot := by
  have hapart : ((byNamespace snapshot.virtualServices).map
      (sharedHostGraph settings snapshot.namespaces)).Pairwise Graph.Apart := by
    refine List.pairwise_map.2 ((pairwise_byNamespace _).imp fun {group others} hns => ?_)
    exact apart_sharedHostGraph settings _ hns
  have hperm := (h.map (sharedHostGraph settings snapshot.namespaces)).symm
  rw [virtualServiceFindings_eq]
  exact (Graph.foldl_merge_eq_of_perm hperm
    (settings.hasFindings_of_mem_sharedHostGraphs snapshot) hapart).symm

/-! ### The four checks -/

variable (objects : List MeshObject)

/-- The graphs of two kinds are apart. -/
theorem apart_findingsOfKind {kind other : Kind} (h : kind ≠ other) :
    (settings.findingsOfKind (.ofObjects objects) kind).Apart
      (settings.findingsOfKind (.ofObjects objects) other) := by
  intro key
  by_cases hkind : key.kind = kind
  · have hother : key.kind ≠ other := fun heq => h (hkind.symm.trans heq)
    exact .inr (settings.findings_findingsOfKind_eq_nil objects hother)
  · exact .inl (settings.findings_findingsOfKind_eq_nil objects hkind)

/-- An analysis does not depend on the order of its four graphs. -/
theorem foldl_merge_eq_analyze {graphs : List Graph}
    (h : graphs.Perm (Kind.all.map (settings.findingsOfKind (.ofObjects objects)))) :
    graphs.foldl Graph.merge ∅ = settings.analyze (.ofObjects objects) := by
  have hkinds : Kind.all.Pairwise fun kind other => kind ≠ other := by decide
  have hapart : (Kind.all.map (settings.findingsOfKind (.ofObjects objects))).Pairwise
      Graph.Apart := by
    refine List.pairwise_map.2 (hkinds.imp fun {kind other} hne => ?_)
    exact settings.apart_findingsOfKind objects hne
  rw [analyze_eq]
  exact (Graph.foldl_merge_eq_of_perm h.symm (settings.hasFindings_of_mem_kindGraphs _)
    hapart).symm

end MeshSettings

/-- Graphs without empty entries form a monoid under merging, which is commutative up to the order
of findings, and altogether between graphs with no object in common. So an analysis is the same in
whatever order its graphs are merged. -/
theorem merge_laws {a b c : Graph} (fullA : a.HasFindings) (fullB : b.HasFindings)
    (fullC : c.HasFindings) :
    (a.merge b).merge c = a.merge (b.merge c) ∧
    Graph.merge ∅ a = a ∧ a.merge ∅ = a ∧
    (a.merge b).Agrees (b.merge a) ∧
    ((∀ key ∈ a.keys, key ∉ b.keys) → a.merge b = b.merge a) ∧
    (a.merge b).findingCount = a.findingCount + b.findingCount ∧
    (∀ entries : List Entry, Graph.ofEntries entries =
      (entries.map fun entry => Graph.ofEntries [entry]).foldl Graph.merge ∅) ∧
    ∀ (settings : MeshSettings) (objects : List MeshObject) (groups : List (List MeshObject))
      (graphs : List Graph),
      let snapshot := Snapshot.ofObjects objects
      groups.Perm (byNamespace snapshot.virtualServices) →
      graphs.Perm [settings.gatewayFindings snapshot,
        (groups.map (sharedHostGraph settings snapshot.namespaces)).foldl Graph.merge ∅,
        settings.destinationRuleFindings snapshot,
        settings.peerAuthenticationFindings snapshot] →
      graphs.foldl Graph.merge ∅ = settings.analyze snapshot := by
  refine ⟨Graph.merge_assoc fullA fullB fullC, Graph.empty_merge fullA, Graph.merge_empty a,
    Graph.agrees_merge_comm fullA fullB, fun hkeys => ?_, Graph.findingCount_merge a b,
    Graph.ofEntries_eq_foldl_merge, ?_⟩
  · exact Graph.merge_comm_of_apart fullA fullB (Graph.apart_of_keys fullA fullB hkeys)
  · intro settings objects groups graphs snapshot hgroups hgraphs
    rw [settings.foldl_merge_sharedHostGraph snapshot hgroups] at hgraphs
    exact settings.foldl_merge_eq_analyze objects hgraphs

/-- Two graphs about one gateway and one about another. Merging the first two the other way round
lists the findings of the gateway in another order. An analysis is the same with its namespaces and
its four graphs in reverse. -/
theorem merge_laws_one_gateway :
    let report := fun name host => Graph.ofEntries
      [(Entry.ofKey ⟨.gateway, "bookinfo", name⟩).addFinding (Check.gatewayMultiMatch.at host)]
    let a := report "front" "spec/servers[0]/hosts[0]"
    let b := report "front" "spec/servers[0]/hosts[1]"
    let c := report "back" "spec/servers[0]/hosts[0]"
    let settings : MeshSettings := {}
    let objects : List MeshObject := ["bookinfo", "eshop"].map fun ns =>
      { kind := .virtualService, name := "reviews", ns, spec := .object [
        ("hosts", .array [.string "reviews", .string "reviews"])] }
    let snapshot := Snapshot.ofObjects objects
    let groups := (byNamespace snapshot.virtualServices).reverse
    (a.HasFindings ∧ b.HasFindings ∧ c.HasFindings ∧ ∀ key ∈ a.keys, key ∉ c.keys) ∧
    (a.merge b).merge c = a.merge (b.merge c) ∧
    (a.merge b).Agrees (b.merge a) ∧ a.merge b ≠ b.merge a ∧ a.merge c = c.merge a ∧
    [settings.peerAuthenticationFindings snapshot, settings.destinationRuleFindings snapshot,
        (groups.map (sharedHostGraph settings snapshot.namespaces)).foldl Graph.merge ∅,
        settings.gatewayFindings snapshot].foldl Graph.merge ∅ =
      settings.analyze snapshot ∧
    (settings.analyze snapshot).size = 2 := by
  intro report a b c settings objects snapshot groups
  have hfull : ∀ name host, (report name host).HasFindings :=
    fun name host => Graph.hasFindings_ofEntries _
  have hkeys : ∀ key ∈ a.keys, key ∉ c.keys := by decide
  have hgroups : groups.Perm (byNamespace snapshot.virtualServices) := List.reverse_perm _
  obtain ⟨hassoc, -, -, hagrees, -, -, -, horder⟩ :=
    merge_laws (hfull "front" "spec/servers[0]/hosts[0]") (hfull "front" "spec/servers[0]/hosts[1]")
      (hfull "back" "spec/servers[0]/hosts[0]")
  obtain ⟨-, -, -, -, hcomm, -⟩ :=
    merge_laws (hfull "front" "spec/servers[0]/hosts[0]") (hfull "back" "spec/servers[0]/hosts[0]")
      Graph.hasFindings_empty
  refine ⟨⟨hfull _ _, hfull _ _, hfull _ _, hkeys⟩, hassoc, hagrees, by decide, hcomm hkeys, ?_,
    by decide⟩
  exact horder settings objects groups _ hgroups (List.reverse_perm [_, _, _, _])

end MeshAudit

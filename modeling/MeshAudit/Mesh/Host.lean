/-!
# Host names of routing rules

A host of a routing rule is a dotted name, often a short one. Inside the mesh `reviews` means the
service of that name in the rule's own namespace, `reviews.bookinfo` the one in a known namespace,
and `reviews.bookinfo` followed by the identity domain the one in any namespace. Every other name
belongs to a host outside the mesh and is kept whole.
-/

namespace MeshAudit

/-- A host of a routing rule after its short form is expanded. -/
structure ResolvedHost where
  /-- Cluster of the service. -/
  cluster : String
  /-- Namespace of the service. -/
  ns : String
  /-- Name of the service, or the whole name of an outside host. -/
  service : String
  /-- Whether the host named its namespace itself. -/
  complete : Bool
  deriving DecidableEq, Repr

/-- The parts of a dotted name. -/
def hostLabels (host : String) : List String :=
  (host.toList.splitOn '.').map String.ofList

/-- Every name has a label. -/
theorem hostLabels_ne_nil (host : String) : hostLabels host ≠ [] := by
  simp [hostLabels]

/-- A name without dots is its only label. -/
theorem hostLabels_of_not_mem {label : String} (h : '.' ∉ label.toList) :
    hostLabels label = [label] := by
  rw [hostLabels, List.splitOn_eq_singleton h]
  simp

/-- The first label of a name ends at the first dot. -/
theorem hostLabels_append {label : String} (h : '.' ∉ label.toList) (rest : String) :
    hostLabels (label ++ "." ++ rest) = label :: hostLabels rest := by
  have hchars : (label ++ "." ++ rest).toList = label.toList ++ '.' :: rest.toList := by simp
  rw [hostLabels, hchars, List.splitOn_append_cons_self_of_not_mem h]
  simp [hostLabels]

/-- The labels of a name with dots between them are the name again. -/
theorem intercalate_hostLabels (host : String) : String.intercalate "." (hostLabels host) = host := by
  have hdot : ".".toList = ['.'] := rfl
  have hlabels : (hostLabels host).map String.toList = host.toList.splitOn '.' := by
    simp [hostLabels, Function.comp_def]
  refine String.toList_inj.1 ?_
  rw [String.toList_intercalate, hdot, hlabels, List.intercalate_splitOn]

/-- What stands between two occurrences of a separator does not have it. -/
theorem not_mem_of_mem_splitOn {sep : Char} {chars piece : List Char}
    (h : piece ∈ chars.splitOn sep) : sep ∉ piece := by
  induction chars generalizing piece with
  | nil =>
    obtain rfl : piece = [] := by simpa using h
    exact List.not_mem_nil
  | cons c rest ih =>
    rw [List.splitOn_cons_eq_if_modifyHead] at h
    split at h
    · rcases List.mem_cons.1 h with rfl | h
      · exact List.not_mem_nil
      · exact ih h
    · next hc =>
      obtain ⟨first, others, hsplit⟩ := List.exists_cons_of_ne_nil (List.splitOn_ne_nil sep rest)
      rw [hsplit] at h ih
      rcases List.mem_cons.1 h with rfl | h
      · have hfirst : sep ∉ first := ih List.mem_cons_self
        have hne : c ≠ sep := by simpa using hc
        simp [hfirst, hne.symm]
      · exact ih (List.mem_cons_of_mem _ h)

/-- No label has a dot. -/
theorem not_mem_of_mem_hostLabels {host label : String} (h : label ∈ hostLabels host) :
    '.' ∉ label.toList := by
  obtain ⟨chars, hchars, rfl⟩ := List.mem_map.1 h
  rw [String.toList_ofList]
  exact not_mem_of_mem_splitOn hchars

/-- Where a host of a routing rule leads, seen from a namespace and a cluster. A host with an empty
label leads nowhere. -/
def resolveHost (identityDomain : String) (known : List String) (ns cluster host : String) :
    Option ResolvedHost :=
  let labels := hostLabels host
  if "" ∈ labels then none
  else match labels with
    | [service] => some ⟨cluster, ns, service, false⟩
    | [service, space] =>
      if space ∈ known then some ⟨cluster, space, service, true⟩
      else some ⟨cluster, ns, host, false⟩
    | service :: space :: rest =>
      if String.intercalate "." rest = identityDomain then some ⟨cluster, space, service, true⟩
      else some ⟨cluster, ns, host, false⟩
    | [] => some ⟨cluster, ns, host, false⟩

/-- Resolving never changes the cluster. -/
theorem cluster_of_resolveHost {domain ns cluster host : String} {known : List String}
    {r : ResolvedHost} (h : resolveHost domain known ns cluster host = some r) :
    r.cluster = cluster := by
  unfold resolveHost at h
  grind

end MeshAudit

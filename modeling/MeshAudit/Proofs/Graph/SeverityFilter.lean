import MeshAudit.Proofs.Graph.MergeAlgebra
import MeshAudit.Proofs.Graph.Soundness

/-!
# Filtering graphs by severity

A filter leaves out findings and, with the last finding of an object, its entry. The flag of an
entry is copied and not computed anew, and it still says whether a finding is an error, since errors
pass every filter. For the same reason it does not matter to findings and flags whether graphs are
filtered before or after they are merged; the references of an entry that is left out are lost.
-/

namespace MeshAudit

/-- The stricter of two severities to filter at. -/
def Severity.stricter : Severity → Severity → Severity
  | .error, _ => .error
  | .warning, other => other

/-- What passes the stricter of two filters passes both. -/
theorem Severity.atLeast_stricter (severity first second : Severity) :
    severity.atLeast (first.stricter second) =
      (severity.atLeast first && severity.atLeast second) := by
  cases first with
  | warning => rfl
  | error =>
    have herror : severity.atLeast .error = true → severity.atLeast second = true := by
      intro h
      rw [(atLeast_error severity).1 h, error_atLeast]
    cases h : severity.atLeast .error with
    | false => simp [stricter, h]
    | true => simp [stricter, h, herror h]

namespace Graph

/-! ### One filter -/

/-- The filter keeps an object that has findings left as valid as it was. -/
theorem isValid_filterSeverity {graph : Graph} {minimum : Severity} {key : ObjectKey} :
    (graph.filterSeverity minimum).isValid key = true ↔
      ((graph.filterSeverity minimum).findings key ≠ [] → graph.isValid key = true) := by
  rw [findings_filterSeverity, filterSeverity, isValid_ofEntries]
  simp only [List.forall_mem_map]
  constructor
  · intro h hkept
    cases hg : graph.get? key with
    | none => simp [isValid, hg]
    | some entry =>
      obtain ⟨hentry, hkey⟩ := get?_eq_some_iff.1 hg
      rw [← hkey, findings_of_mem hentry] at hkept
      have hvalid : entry.valid = true := h entry hentry hkey hkept
      simpa [isValid, hg] using hvalid
  · intro h entry hentry hkey hkept
    have hkey : entry.key = key := hkey
    have hfindings := findings_of_mem hentry
    have hget := get?_eq_some_iff.2 ⟨hentry, hkey⟩
    rw [hkey] at hfindings
    rw [hfindings] at h
    have hvalid : entry.valid = true := by simpa [isValid, hget] using h hkept
    exact hvalid

/-- A filter leaves of an entry what passes, or nothing. -/
theorem get?_filterSeverity {graph : Graph} {key : ObjectKey} {held : Entry}
    (hget : graph.get? key = some held) (minimum : Severity) :
    (graph.filterSeverity minimum).get? key =
      if (keepFindings minimum held).findings = [] then none
      else some (keepFindings minimum held) := by
  obtain ⟨-, hkey⟩ := get?_eq_some_iff.1 hget
  have hfindings : (graph.filterSeverity minimum).findings key =
      (keepFindings minimum held).findings := by
    rw [findings_filterSeverity]
    simp [findings, hget, keepFindings]
  rw [(hasFindings_filterSeverity graph minimum).get?_eq, hfindings]
  refine ite_congr rfl (fun _ => rfl) fun hkept => congrArg some ?_
  have hne : (graph.filterSeverity minimum).findings key ≠ [] := hfindings ▸ hkept
  have hvalid : (graph.filterSeverity minimum).isValid key = held.valid := by
    have hheld : graph.isValid key = held.valid := by simp [isValid, hget]
    rw [Bool.eq_iff_iff, isValid_filterSeverity, hheld]
    exact ⟨fun h => h hne, fun h _ => h⟩
  have hreferences : (graph.filterSeverity minimum).references key = held.references := by
    refine SortedSet.ext_mem fun x => ?_
    rw [mem_references_filterSeverity]
    simp [hne, references, hget]
  exact Entry.ext hkey.symm hvalid rfl hreferences

/-- What a filter leaves of an object is its entry with the findings that pass, if there are any. -/
theorem get?_filterSeverity_eq_some_iff {graph : Graph} {minimum : Severity} {key : ObjectKey}
    {entry : Entry} :
    (graph.filterSeverity minimum).get? key = some entry ↔
      entry.findings ≠ [] ∧ ∃ held, graph.get? key = some held ∧
        entry = keepFindings minimum held := by
  cases hget : graph.get? key with
  | none =>
    have hnil : (graph.filterSeverity minimum).findings key = [] := by
      rw [findings_filterSeverity]
      simp [findings, hget]
    rw [(hasFindings_filterSeverity graph minimum).get?_eq, hnil]
    simp
  | some held =>
    rw [get?_filterSeverity hget]
    simp only [Option.some.injEq, exists_eq_left']
    split
    · next hnil =>
      simp only [reduceCtorEq, false_iff]
      rintro ⟨hne, rfl⟩
      exact hne hnil
    · next hne =>
      constructor
      · intro h
        obtain rfl := Option.some.inj h
        exact ⟨hne, rfl⟩
      · rintro ⟨-, rfl⟩
        rfl

/-- Filtering keeps graphs consistent: an error passes every filter, so an entry that counts as
invalid keeps the reason for it. -/
theorem Consistent.filterSeverity {graph : Graph} (consistent : graph.Consistent)
    (minimum : Severity) : (graph.filterSeverity minimum).Consistent := by
  refine .of_isValid (hasFindings_filterSeverity graph minimum) fun key => ?_
  rw [isValid_filterSeverity, consistent.isValid_iff, findings_filterSeverity]
  constructor
  · intro h finding hfinding
    exact h (List.ne_nil_of_mem hfinding) finding (List.mem_filter.1 hfinding).1
  · intro h _ finding hfinding herror
    have hpass : finding.severity.atLeast minimum = true := by
      rw [herror, Severity.error_atLeast]
    exact h finding (List.mem_filter.2 ⟨hfinding, hpass⟩) herror

/-- The filter for warnings leaves a graph without empty entries as it is. -/
theorem filterSeverity_warning {graph : Graph} (full : graph.HasFindings) :
    graph.filterSeverity .warning = graph := by
  have hfindings : ∀ key, (graph.filterSeverity .warning).findings key = graph.findings key := by
    intro key
    rw [findings_filterSeverity]
    exact List.filter_eq_self.2 fun finding _ => Severity.atLeast_warning finding.severity
  refine (hasFindings_filterSeverity graph .warning).ext full ?_ ?_ hfindings
  · intro key
    rw [Bool.eq_iff_iff, isValid_filterSeverity, hfindings]
    constructor
    · intro h
      by_cases hnil : graph.findings key = []
      · exact full.isValid_of_findings_eq_nil hnil
      · exact h hnil
    · intro h _
      exact h
  · intro key
    refine SortedSet.ext_mem fun x => ?_
    rw [mem_references_filterSeverity, hfindings]
    exact and_iff_right_of_imp fun h => full.findings_ne_nil_of_mem h

/-! ### Two filters -/

/-- Two filters one after the other keep what passes the stricter one. -/
theorem filterSeverity_filterSeverity (graph : Graph) (first second : Severity) :
    (graph.filterSeverity first).filterSeverity second =
      graph.filterSeverity (first.stricter second) := by
  have hfindings : ∀ key, ((graph.filterSeverity first).filterSeverity second).findings key =
      (graph.filterSeverity (first.stricter second)).findings key := by
    intro key
    rw [findings_filterSeverity, findings_filterSeverity, findings_filterSeverity,
      List.filter_filter]
    simp only [Severity.atLeast_stricter, Bool.and_comm]
  -- an object that has findings left after both filters has some after the first one
  have hfirst : ∀ key, ((graph.filterSeverity first).filterSeverity second).findings key ≠ [] →
      (graph.filterSeverity first).findings key ≠ [] := by
    intro key hne hnil
    rw [findings_filterSeverity, hnil] at hne
    exact hne rfl
  refine (hasFindings_filterSeverity _ second).ext (hasFindings_filterSeverity graph _) ?_ ?_
    hfindings
  · intro key
    rw [Bool.eq_iff_iff, isValid_filterSeverity, isValid_filterSeverity, isValid_filterSeverity,
      ← hfindings]
    exact ⟨fun h hne => h hne (hfirst key hne), fun h hne _ => h hne⟩
  · intro key
    refine SortedSet.ext_mem fun x => ?_
    rw [mem_references_filterSeverity, mem_references_filterSeverity,
      mem_references_filterSeverity, ← hfindings]
    constructor
    · rintro ⟨hne, -, hx⟩
      exact ⟨hne, hx⟩
    · rintro ⟨hne, hx⟩
      exact ⟨hne, hfirst key hne, hx⟩

/-! ### Filtering and merging -/

section Merging

variable {graph other : Graph} (minimum : Severity)

/-- The findings of a merge that pass a filter are those of the two graphs that do. -/
theorem findings_filterSeverity_merge (graph other : Graph) (key : ObjectKey) :
    ((graph.merge other).filterSeverity minimum).findings key =
      ((graph.filterSeverity minimum).merge (other.filterSeverity minimum)).findings key := by
  rw [findings_filterSeverity, findings_merge, findings_merge, findings_filterSeverity,
    findings_filterSeverity, List.filter_append]

/-- A filtered merge has an entry for the same objects as the merge of the filtered graphs. -/
theorem keys_filterSeverity_merge (graph other : Graph) :
    ((graph.merge other).filterSeverity minimum).keys =
      ((graph.filterSeverity minimum).merge (other.filterSeverity minimum)).keys := by
  have hwhole := hasFindings_filterSeverity (graph.merge other) minimum
  have hparts := (hasFindings_filterSeverity graph minimum).merge (other.filterSeverity minimum)
  refine keys_eq fun key => ?_
  rw [hwhole.contains_iff, hparts.contains_iff, findings_filterSeverity_merge]

/-- An object is valid in a filtered merge of consistent graphs exactly when it is in the merge of
the filtered graphs: both are consistent and have the same findings. -/
theorem Consistent.isValid_filterSeverity_merge (consistent : graph.Consistent)
    (consistentOther : other.Consistent) (key : ObjectKey) :
    ((graph.merge other).filterSeverity minimum).isValid key =
      ((graph.filterSeverity minimum).merge (other.filterSeverity minimum)).isValid key := by
  have hwhole := (consistent.merge consistentOther).filterSeverity minimum
  have hparts := (consistent.filterSeverity minimum).merge (consistentOther.filterSeverity minimum)
  rw [Bool.eq_iff_iff, hwhole.isValid_iff, hparts.isValid_iff, findings_filterSeverity_merge]

/-- A filtered merge has all references of the merge of the filtered graphs. -/
theorem mem_references_filterSeverity_merge (full : other.HasFindings) {key x : ObjectKey}
    (h : x ∈ ((graph.filterSeverity minimum).merge (other.filterSeverity minimum)).references key) :
    x ∈ ((graph.merge other).filterSeverity minimum).references key := by
  have hfilter := hasFindings_filterSeverity other minimum
  rw [mem_references_filterSeverity, findings_filterSeverity_merge, findings_merge,
    mem_references_merge full]
  rw [mem_references_merge hfilter, mem_references_filterSeverity,
    mem_references_filterSeverity] at h
  rcases h with ⟨hne, hx⟩ | ⟨hne, hx⟩
  · exact ⟨List.append_ne_nil_of_left_ne_nil hne _, .inl hx⟩
  · exact ⟨List.append_ne_nil_of_right_ne_nil _ hne, .inr hx⟩

/-- Where only one of two graphs speaks of each object, filtering their merge is merging the
filtered graphs. -/
theorem Consistent.filterSeverity_merge_of_apart (consistent : graph.Consistent)
    (consistentOther : other.Consistent) (apart : graph.Apart other) :
    (graph.merge other).filterSeverity minimum =
      (graph.filterSeverity minimum).merge (other.filterSeverity minimum) := by
  have hfull := hasFindings_filterSeverity graph minimum
  have hfullOther := hasFindings_filterSeverity other minimum
  refine (hasFindings_filterSeverity _ minimum).ext (hfull.merge _)
    (consistent.isValid_filterSeverity_merge minimum consistentOther) (fun key => ?_)
    (findings_filterSeverity_merge minimum graph other)
  refine SortedSet.ext_mem fun x => ⟨fun h => ?_, fun h =>
    mem_references_filterSeverity_merge minimum consistentOther.full h⟩
  obtain ⟨hne, hx⟩ := mem_references_filterSeverity.1 h
  rw [findings_filterSeverity_merge, findings_merge] at hne
  rw [mem_references_merge hfullOther, mem_references_filterSeverity,
    mem_references_filterSeverity]
  rcases (mem_references_merge consistentOther.full).1 hx with hx | hx
  · -- the reference is the first graph's, so the other one has no findings to be left
    have hnil : other.findings key = [] :=
      (apart key).resolve_left (consistent.full.findings_ne_nil_of_mem hx)
    rw [findings_filterSeverity other, hnil, List.filter_nil, List.append_nil] at hne
    exact .inl ⟨hne, hx⟩
  · have hnil : graph.findings key = [] :=
      (apart key).resolve_right (consistentOther.full.findings_ne_nil_of_mem hx)
    rw [findings_filterSeverity graph, hnil, List.filter_nil, List.nil_append] at hne
    exact .inr ⟨hne, hx⟩

end Merging

/-! ### The laws of the filter -/

/-- The filter for warnings keeps a consistent graph, and two filters are one at the stricter
severity. A filtered merge has the keys, findings and flags of the merged filtered graphs and at
least their references, and is the same when no object is in both. -/
theorem filterSeverity_laws {graph other : Graph} (consistent : graph.Consistent)
    (consistentOther : other.Consistent) (first second : Severity) :
    graph.filterSeverity .warning = graph ∧
    (graph.filterSeverity first).filterSeverity second =
      graph.filterSeverity (first.stricter second) ∧
    (∀ key entry, (graph.filterSeverity first).get? key = some entry ↔
      entry.findings ≠ [] ∧ ∃ held, graph.get? key = some held ∧
        entry = { held with
          findings := held.findings.filter fun finding => finding.severity.atLeast first }) ∧
    (graph.filterSeverity first).Consistent ∧
    let whole := (graph.merge other).filterSeverity first
    let parts := (graph.filterSeverity first).merge (other.filterSeverity first)
    whole.keys = parts.keys ∧
    (∀ key, whole.findings key = parts.findings key ∧ whole.isValid key = parts.isValid key ∧
      ∀ x ∈ parts.references key, x ∈ whole.references key) ∧
    ((∀ key ∈ graph.keys, key ∉ other.keys) → whole = parts) := by
  refine ⟨filterSeverity_warning consistent.full, filterSeverity_filterSeverity graph first second,
    fun key entry => get?_filterSeverity_eq_some_iff, consistent.filterSeverity first,
    keys_filterSeverity_merge first graph other, fun key => ⟨?_, ?_, fun x hx => ?_⟩, fun h => ?_⟩
  · exact findings_filterSeverity_merge first graph other key
  · exact consistent.isValid_filterSeverity_merge first consistentOther key
  · exact mem_references_filterSeverity_merge first consistentOther.full hx
  · exact consistent.filterSeverity_merge_of_apart first consistentOther
      (apart_of_keys consistent.full consistentOther.full h)

/-- A gateway with a warning and a reference in one graph and an error in another one has the error
alone after both ways to filter their merge, and the reference after one of them only. -/
theorem filterSeverity_laws_warned_gateway :
    let front : ObjectKey := ⟨.gateway, "bookinfo", "front"⟩
    let back : ObjectKey := ⟨.gateway, "bookinfo", "back"⟩
    let error := Check.gatewayMultiMatch.at "spec/servers[0]/hosts[0]"
    let warned := Graph.ofEntries [((Entry.ofKey front).addFinding
      { error with severity := .warning }).addReference back]
    let broken := Graph.ofEntries [(Entry.ofKey front).addFinding error]
    let apart := Graph.ofEntries [(Entry.ofKey back).addFinding error]
    let whole := (warned.merge broken).filterSeverity .error
    let parts := (warned.filterSeverity .error).merge (broken.filterSeverity .error)
    (warned.Consistent ∧ broken.Consistent ∧ apart.Consistent ∧
      ∀ key ∈ warned.keys, key ∉ apart.keys) ∧
    (warned.filterSeverity .error).filterSeverity .warning = ∅ ∧
    (whole.keys = [front] ∧ parts.keys = [front]) ∧
    (whole.findings front = [error] ∧ parts.findings front = [error]) ∧
    (back ∈ whole.references front ∧ back ∉ parts.references front) ∧
    (warned.merge apart).filterSeverity .error =
      (warned.filterSeverity .error).merge (apart.filterSeverity .error) := by
  intro front back error warned broken apart whole parts
  have hwarned : warned.Consistent :=
    (sound_ofEntries (List.forall_mem_singleton.2
      (((Entry.sound_ofKey front).addFinding _).addReference back))).consistent
  have hone : ∀ key, (Graph.ofEntries [(Entry.ofKey key).addFinding error]).Consistent := by
    intro key
    exact (sound_ofEntries (List.forall_mem_singleton.2
      ((Entry.sound_ofKey key).addFinding error))).consistent
  have hapart : ∀ key ∈ warned.keys, key ∉ apart.keys := by decide
  obtain ⟨-, hstricter, -, -, hkeys, hsame, -⟩ :=
    filterSeverity_laws hwarned (hone front) .error .warning
  obtain ⟨-, -, -, -, -, -, hmerge⟩ := filterSeverity_laws hwarned (hone back) .error .error
  have hwhole : whole.keys = [front] := by decide
  have hfindings : whole.findings front = [error] := by decide
  refine ⟨⟨hwarned, hone front, hone back, hapart⟩, hstricter.trans (by decide),
    ⟨hwhole, hkeys.symm.trans hwhole⟩, ⟨hfindings, (hsame front).1.symm.trans hfindings⟩,
    ⟨by decide, by decide⟩, hmerge hapart⟩

end Graph

end MeshAudit

import MeshAudit.Proofs.Analysis.Contents

/-!
# Destination rules in an analysis

Two checks, the scans over two lists of policies and the merge of entries with one key decide
together what an analysis says of a destination rule. It says exactly how the rules with its key
fail, each of them at most once.
-/

namespace MeshAudit

/-- A rule has an error at its mode for the check that it fails. -/
theorem map_at_ruleFailure? (settings : MeshSettings) (snapshot : Snapshot) (rule : MeshObject) :
    (ruleFailure? settings snapshot rule).toList.map (fun check => check.at ruleModePath) =
      (ruleFailure? settings snapshot rule).toList.map fun check =>
        ⟨check, "spec/trafficPolicy/tls/mode", .error⟩ := by
  refine List.map_congr_left fun check hcheck => ?_
  have hfails := ruleFailure?_eq_some_iff.1 (Option.mem_toList.1 hcheck)
  rw [Check.at, hfails.severity_eq]
  rfl

namespace MeshSettings

variable (settings : MeshSettings) (objects : List MeshObject) (ns name : String)

/-- The findings about a destination rule are one error at its mode for every failing rule with its
key, in the order of the snapshot. -/
theorem findings_analyze_destinationRule :
    (settings.analyze (.ofObjects objects)).findings ⟨.destinationRule, ns, name⟩ =
      ((Snapshot.ofObjects objects).destinationRules.filter fun rule =>
          ObjectKey.ofObject rule = ⟨.destinationRule, ns, name⟩).flatMap fun rule =>
        (ruleFailure? settings (.ofObjects objects) rule).toList.map fun check =>
          ⟨check, "spec/trafficPolicy/tls/mode", .error⟩ := by
  have hkind := settings.findings_analyze objects ⟨.destinationRule, ns, name⟩
  have hrules := settings.findings_destinationRuleFindings (.ofObjects objects)
    ⟨.destinationRule, ns, name⟩
  refine (hkind.trans hrules).trans (List.flatMap_congr fun rule _ => ?_)
  exact map_at_ruleFailure? settings (.ofObjects objects) rule

/-- A destination rule is listed when some rule with its key fails. -/
theorem contains_analyze_destinationRule :
    (settings.analyze (.ofObjects objects)).contains ⟨.destinationRule, ns, name⟩ = true ↔
      ∃ rule ∈ (Snapshot.ofObjects objects).destinationRules,
        ObjectKey.ofObject rule = ⟨.destinationRule, ns, name⟩ ∧
          ∃ check, RuleFails settings (.ofObjects objects) rule check := by
  have hfull := settings.hasFindings_analyze (.ofObjects objects)
  rw [hfull.contains_iff, findings_analyze_destinationRule, ne_eq, List.flatMap_eq_nil_iff]
  simp only [List.mem_filter, List.map_eq_nil_iff, Option.toList_eq_nil_iff,
    decide_eq_true_eq, not_forall, ← ruleFailure?_eq_some_iff, ← Option.isSome_iff_exists,
    Option.isSome_iff_ne_none, exists_prop, and_assoc]

/-- A destination rule is valid exactly when it is not listed. -/
theorem isValid_analyze_destinationRule :
    (settings.analyze (.ofObjects objects)).isValid ⟨.destinationRule, ns, name⟩ = true ↔
      ¬ (settings.analyze (.ofObjects objects)).contains ⟨.destinationRule, ns, name⟩ = true := by
  have hkind : (settings.analyze (.ofObjects objects)).isValid ⟨.destinationRule, ns, name⟩ =
        true ↔
      (settings.destinationRuleFindings (.ofObjects objects)).isValid
        ⟨.destinationRule, ns, name⟩ = true :=
    settings.isValid_analyze objects
  rw [hkind, isValid_destinationRuleFindings, contains_analyze_destinationRule]
  constructor
  · intro hpass hfail
    obtain ⟨rule, hmem, hkey, check, hfails⟩ := hfail
    have hnone := hpass rule hmem hkey
    rw [ruleFailure?_eq_some_iff.2 hfails] at hnone
    cases hnone
  · intro hpass rule hmem hkey
    by_contra hne
    obtain ⟨check, hcheck⟩ := Option.ne_none_iff_exists'.1 hne
    exact hpass ⟨rule, hmem, hkey, check, ruleFailure?_eq_some_iff.1 hcheck⟩

/-- A destination rule refers to no other object. -/
theorem not_mem_references_analyze_destinationRule (x : ObjectKey) :
    ¬ x ∈ (settings.analyze (.ofObjects objects)).references ⟨.destinationRule, ns, name⟩ := by
  intro hx
  have hrules := (settings.mem_references_analyze objects).1 hx
  exact settings.not_mem_references_destinationRuleFindings _ _ x hrules

end MeshSettings

/-- The analysis has an error at the mode of a destination rule for every rule with its key that
fails, and nothing else. The rule is listed, and invalid, when some rule with its key fails, and it
refers to no other object. -/
theorem analyze_destinationRules (settings : MeshSettings) (objects : List MeshObject) :
    let snapshot := Snapshot.ofObjects objects
    let graph := settings.analyze snapshot
    (∀ rule check, ruleFailure? settings snapshot rule = some check ↔
      RuleFails settings snapshot rule check) ∧
    ∀ ns name, let key : ObjectKey := ⟨.destinationRule, ns, name⟩
      graph.findings key =
          (snapshot.destinationRules.filter fun rule => ObjectKey.ofObject rule = key).flatMap
            (fun rule => (ruleFailure? settings snapshot rule).toList.map fun check =>
              ⟨check, "spec/trafficPolicy/tls/mode", .error⟩) ∧
        (graph.contains key = true ↔
          ∃ rule ∈ snapshot.destinationRules, ObjectKey.ofObject rule = key ∧
            ∃ check, RuleFails settings snapshot rule check) ∧
        graph.isValid key = !graph.contains key ∧
        ∀ x, ¬ x ∈ graph.references key := by
  intro snapshot graph
  refine ⟨fun rule check => ruleFailure?_eq_some_iff, fun ns name => ?_⟩
  have hvalid := settings.isValid_analyze_destinationRule objects ns name
  refine ⟨settings.findings_analyze_destinationRule objects ns name,
    settings.contains_analyze_destinationRule objects ns name, ?_,
    settings.not_mem_references_analyze_destinationRule objects ns name⟩
  cases hc : graph.contains ⟨.destinationRule, ns, name⟩ with
  | true => simpa [graph, snapshot, hc] using hvalid
  | false => simpa [graph, snapshot, hc] using hvalid

end MeshAudit

import MeshAudit.Proofs.Settings.Environment
import MeshAudit.Proofs.Settings.ProblemReport

/-!
# Which settings are accepted

Settings are accepted when the identity domain is a dotted name, the root namespace is one label of
bounded length and the log level is named. Otherwise a report names every field that breaks a rule
of its own, in the order of the paths. A root namespace with a dot breaks a rule that is looked at
only when there is nothing else to report.
-/

namespace MeshAudit

/-! ### Dotted names -/

/-- A label of the identity domain: ASCII letters, digits and hyphens, at least one of them. -/
structure IsDomainLabel (label : String) : Prop where
  /-- It is not empty. -/
  ne_empty : label ≠ ""
  /-- It has letters, digits and hyphens only. -/
  chars : ∀ c ∈ label.toList,
    'a' ≤ c ∧ c ≤ 'z' ∨ 'A' ≤ c ∧ c ≤ 'Z' ∨ '0' ≤ c ∧ c ≤ '9' ∨ c = '-'

/-- The name is one or more labels with dots between them. -/
def IsDomainName (name : String) : Prop :=
  ∃ labels : List String, labels ≠ [] ∧ name = String.intercalate "." labels ∧
    ∀ label ∈ labels, IsDomainLabel label

/-- The characters of labels are the ASCII letters, the digits and the hyphen. -/
theorem isDomainChar_iff {c : Char} :
    isDomainChar c = true ↔
      'a' ≤ c ∧ c ≤ 'z' ∨ 'A' ≤ c ∧ c ≤ 'Z' ∨ '0' ≤ c ∧ c ≤ '9' ∨ c = '-' := by
  have hupper : c.isUpper = decide ('A' ≤ c ∧ c ≤ 'Z') := rfl
  have hlower : c.isLower = (decide ('a' ≤ c) && decide (c ≤ 'z')) := rfl
  have hdigit : c.isDigit = (decide ('0' ≤ c) && decide (c ≤ '9')) := rfl
  have hchar : isDomainChar c = (c.isUpper || c.isLower || c.isDigit || decide (c = '-')) := rfl
  rw [hchar, hupper, hlower, hdigit]
  simp only [Bool.or_eq_true, Bool.and_eq_true, decide_eq_true_iff]
  rw [or_assoc, or_assoc, or_left_comm]

/-- The labels of a name that is put together of texts without dots are these texts. -/
theorem hostLabels_intercalate {labels : List String} (hne : labels ≠ [])
    (hdots : ∀ label ∈ labels, '.' ∉ label.toList) :
    hostLabels (String.intercalate "." labels) = labels := by
  induction labels with
  | nil => exact absurd rfl hne
  | cons label rest ih =>
    obtain ⟨hlabel, hrest⟩ := List.forall_mem_cons.1 hdots
    cases rest with
    | nil => rw [String.intercalate_singleton, hostLabels_of_not_mem hlabel]
    | cons next others =>
      rw [String.intercalate_cons_cons, hostLabels_append hlabel, ih (by simp) hrest]

/-- A label of the identity domain has no dot. -/
theorem IsDomainLabel.not_mem {label : String} (h : IsDomainLabel label) : '.' ∉ label.toList := by
  intro hdot
  have hchar := h.chars '.' hdot
  revert hchar
  decide

/-- The check of the identity domain accepts the names of one or more labels. -/
theorem isDottedName_iff {name : String} : isDottedName name = true ↔ IsDomainName name := by
  have hlabel : ∀ label : String,
      (decide (label ≠ "") && label.toList.all isDomainChar) = true ↔ IsDomainLabel label := by
    intro label
    rw [Bool.and_eq_true, decide_eq_true_iff, List.all_eq_true]
    simp only [isDomainChar_iff]
    exact ⟨fun h => ⟨h.1, h.2⟩, fun h => ⟨h.ne_empty, h.chars⟩⟩
  rw [isDottedName, List.all_eq_true]
  simp only [hlabel]
  constructor
  · intro h
    exact ⟨hostLabels name, hostLabels_ne_nil name, (intercalate_hostLabels name).symm, h⟩
  · rintro ⟨labels, hne, rfl, hlabels⟩
    rw [hostLabels_intercalate hne fun label hmem => (hlabels label hmem).not_mem]
    exact hlabels

instance (name : String) : Decidable (IsDomainName name) :=
  decidable_of_iff (isDottedName name = true) isDottedName_iff

/-- The empty text is no name: it is one label, and that one is empty. -/
theorem not_isDomainName_empty : ¬ IsDomainName "" := by decide

/-! ### Problems of records -/

namespace Problem

/-- The wrong fields of two parts of a record follow one another. -/
theorem flattenFields_append (path : String) (fields other : List (String × Problem)) :
    flattenFields path (fields ++ other) =
      flattenFields path fields ++ flattenFields path other := by
  simp only [flattenFields_eq_flatMap, List.flatMap_append]

/-- The wrong fields of a record at a field are those of the record at the path of the field. -/
theorem flattenFields_recordProblem (path name : String) (fields : List (String × Problem)) :
    flattenFields path (recordProblem name fields) =
      flattenFields (fieldPath path name) fields := by
  cases fields with
  | nil => rfl
  | cons field rest => exact List.append_nil _

/-- A field is wrong when there is a reason for it. -/
theorem flattenFields_fieldProblem (path name : String) (reasons : List (Option String)) :
    flattenFields path (fieldProblem name reasons) =
      if reasons = [] then []
      else [(fieldPath path name, String.intercalate ", " (reasons.map reasonText))] := by
  cases reasons with
  | nil => rfl
  | cons reason rest => rfl

end Problem

/-! ### Fields that break a rule of their own -/

namespace Settings

/-- Settings that the program can work with. -/
structure WellFormed (settings : Settings) : Prop where
  /-- The identity domain is a dotted name. -/
  domain : IsDomainName settings.mesh.identityDomain
  /-- The root namespace has one to sixty-three characters. -/
  rootLength : 1 ≤ settings.mesh.rootNamespace.length ∧ settings.mesh.rootNamespace.length ≤ 63
  /-- The root namespace is a single label. -/
  rootLabel : '.' ∉ settings.mesh.rootNamespace.toList
  /-- The log level is named. -/
  level : settings.log.level ≠ ""

/-- A field with the reasons against it, unless its rule holds. -/
def brokenUnless (rule : Prop) [Decidable rule] (path reasons : String) : List (String × String) :=
  if rule then [] else [(path, reasons)]

/-- No field is given when the rule holds. -/
theorem brokenUnless_eq_nil_iff {rule : Prop} [Decidable rule] {path reasons : String} :
    brokenUnless rule path reasons = [] ↔ rule := by
  simp [brokenUnless]

/-- The path of the field is given when the rule is broken. -/
theorem mem_map_fst_brokenUnless {rule : Prop} [Decidable rule] {path reasons x : String} :
    x ∈ (brokenUnless rule path reasons).map Prod.fst ↔ x = path ∧ ¬ rule := by
  by_cases hrule : rule
  · simp [brokenUnless, hrule]
  · simp [brokenUnless, hrule]

/-- The reasons against an identity domain that is no dotted name. -/
def domainReasons (domain : String) : String :=
  if domain = "" then
    "Identity domain cannot be empty, Identity domain must be a dot-separated DNS suffix"
  else "Identity domain must be a dot-separated DNS suffix"

/-- The fields that break a rule of their own, by their paths, with the reasons. -/
def brokenFields (settings : Settings) : List (String × String) :=
  brokenUnless (IsDomainName settings.mesh.identityDomain)
      "analyzer.identity_domain" (domainReasons settings.mesh.identityDomain) ++
    brokenUnless
      (1 ≤ settings.mesh.rootNamespace.length ∧ settings.mesh.rootNamespace.length ≤ 63)
      "analyzer.root_namespace" "Root namespace must be 1-63 characters" ++
    brokenUnless (settings.log.level ≠ "") "observability.log_level" "Log level cannot be empty"

/-- A field with one rule is wrong when the rule is broken. -/
theorem flattenFields_of_rule (path name reason : String) (rule : Prop) [Decidable rule] :
    Problem.flattenFields path (fieldProblem name (reasonUnless (decide rule) reason)) =
      brokenUnless rule (Problem.fieldPath path name) reason := by
  rw [Problem.flattenFields_fieldProblem]
  by_cases hrule : rule
  · simp [reasonUnless, brokenUnless, hrule]
  · simp [reasonUnless, brokenUnless, hrule, Problem.reasonText]

/-- The two rules for the identity domain are broken by what is no dotted name: the empty text
breaks both, anything else the second one. -/
theorem flattenFields_of_domain (path name domain : String) :
    Problem.flattenFields path (fieldProblem name
      (reasonUnless (domain ≠ "") "Identity domain cannot be empty" ++
        reasonUnless (isDottedName domain) "Identity domain must be a dot-separated DNS suffix")) =
      brokenUnless (IsDomainName domain) (Problem.fieldPath path name) (domainReasons domain) := by
  rw [Problem.flattenFields_fieldProblem]
  by_cases hempty : domain = ""
  · subst hempty
    rfl
  · by_cases hname : IsDomainName domain
    · simp [reasonUnless, brokenUnless, hempty, hname, isDottedName_iff.2 hname]
    · have hdotted : isDottedName domain = false := by
        rw [← Bool.not_eq_true, isDottedName_iff]
        exact hname
      simp [reasonUnless, brokenUnless, domainReasons, hempty, hname, hdotted,
        Problem.reasonText]

variable (settings : Settings)

/-- Flattening the problems of settings gives the fields that break a rule. -/
theorem flattenFields_problems :
    Problem.flattenFields "" settings.problems = settings.brokenFields := by
  have hroot : (decide (1 ≤ settings.mesh.rootNamespace.length) &&
      decide (settings.mesh.rootNamespace.length ≤ 63)) =
      decide (1 ≤ settings.mesh.rootNamespace.length ∧
        settings.mesh.rootNamespace.length ≤ 63) := (Bool.decide_and _ _).symm
  rw [problems, MeshSettings.problems, LogSettings.problems, hroot]
  simp only [Problem.flattenFields_append, Problem.flattenFields_recordProblem,
    flattenFields_of_domain, flattenFields_of_rule]
  rfl

/-- Settings have no problem exactly when no field breaks a rule. -/
theorem problems_eq_nil_iff : settings.problems = [] ↔ settings.brokenFields = [] := by
  have hdomain : settings.mesh.identityDomain ≠ "" ∧ IsDomainName settings.mesh.identityDomain ↔
      IsDomainName settings.mesh.identityDomain := by
    refine and_iff_right_of_imp ?_
    intro hname hempty
    exact not_isDomainName_empty (hempty ▸ hname)
  simp only [problems, MeshSettings.problems, LogSettings.problems, brokenFields,
    List.append_eq_nil_iff, recordProblem_eq_nil, fieldProblem_eq_nil, reasonUnless_eq_nil,
    brokenUnless_eq_nil_iff, Bool.and_eq_true, decide_eq_true_iff, isDottedName_iff, hdomain]

/-- The fields that break a rule are in the order of their paths. -/
theorem pairwise_brokenFields :
    (settings.brokenFields.map Prod.fst).Pairwise (· < ·) := by
  have hone : ∀ (rule : Prop) [Decidable rule] (path reasons : String),
      ((brokenUnless rule path reasons).map Prod.fst).Sublist [path] := by
    intro rule _ path reasons
    by_cases hrule : rule
    · simp [brokenUnless, hrule]
    · simp [brokenUnless, hrule]
  have hsorted : ["analyzer.identity_domain", "analyzer.root_namespace",
      "observability.log_level"].Pairwise (· < ·) := by decide
  refine hsorted.sublist ?_
  rw [brokenFields, List.map_append, List.map_append]
  exact ((hone _ _ _).append (hone _ _ _)).append (hone _ _ _)

/-- The report of the problems of settings lists the fields that break a rule in the order in which
they are found, which is that of their paths. -/
theorem failure_problems :
    Problem.failure settings.problems =
      ⟨.validation (match settings.brokenFields with
        | [field] => some field.1
        | _ => none),
      "Validation failed: " ++
        String.intercalate "; " (settings.brokenFields.map Problem.fieldText)⟩ := by
  have hsorted : settings.brokenFields.Pairwise fun a b => Problem.reportedBefore a b = true :=
    (List.pairwise_map.1 settings.pairwise_brokenFields).imp Problem.reportedBefore_of_lt
  have hfields : (Problem.flattenFields "" settings.problems).mergeSort Problem.reportedBefore =
      settings.brokenFields := by
    rw [flattenFields_problems, List.mergeSort_of_pairwise hsorted]
  rw [← hfields]
  rfl

/-- Settings are refused with the report of their problems when a field breaks a rule. -/
theorem validate_of_brokenFields_ne_nil (h : settings.brokenFields ≠ []) :
    settings.validate = .error (Problem.failure settings.problems) := by
  have hne : settings.problems.isEmpty = false := by
    rw [List.isEmpty_eq_false_iff]
    exact fun hnil => h (settings.problems_eq_nil_iff.1 hnil)
  simp only [validate, hne, Bool.not_false, if_true]

/-- Settings are well-formed when no field breaks a rule of its own and the root namespace is a
single label. -/
theorem wellFormed_iff :
    settings.WellFormed ↔
      settings.brokenFields = [] ∧ '.' ∉ settings.mesh.rootNamespace.toList := by
  simp only [brokenFields, List.append_eq_nil_iff, brokenUnless_eq_nil_iff]
  constructor
  · intro h
    exact ⟨⟨⟨h.domain, h.rootLength⟩, h.level⟩, h.rootLabel⟩
  · rintro ⟨⟨⟨hdomain, hlength⟩, hlevel⟩, hlabel⟩
    exact ⟨hdomain, hlength, hlabel, hlevel⟩

end Settings

/-! ### Accepted settings -/

/-- Settings are accepted exactly when they are well-formed. Otherwise the message lists the fields
that break a rule of their own, sorted by their paths, in whatever order they are met, or a dot in
the root namespace when there are none. -/
theorem validate_names_broken_fields (settings : Settings) :
    (settings.validate = .ok () ↔ settings.WellFormed) ∧
    settings.validate =
      (match settings.brokenFields with
      | [] =>
        if '.' ∈ settings.mesh.rootNamespace.toList then
          .error ⟨.validation (some "analyzer.root_namespace"),
            "Root namespace must be a single DNS label"⟩
        else .ok ()
      | [(path, reasons)] =>
        .error ⟨.validation (some path), "Validation failed: " ++ (path ++ ": " ++ reasons)⟩
      | fields =>
        .error ⟨.validation none, "Validation failed: " ++
          String.intercalate "; " (fields.map fun field => field.1 ++ ": " ++ field.2)⟩) ∧
    (∀ path, path ∈ settings.brokenFields.map Prod.fst ↔
      path = "analyzer.identity_domain" ∧ ¬ IsDomainName settings.mesh.identityDomain ∨
      path = "analyzer.root_namespace" ∧
        ¬ (1 ≤ settings.mesh.rootNamespace.length ∧ settings.mesh.rootNamespace.length ≤ 63) ∨
      path = "observability.log_level" ∧ settings.log.level = "") ∧
    (settings.brokenFields.map Prod.fst).Pairwise (· < ·) ∧
    ∀ problems, Problem.Reordered (.record settings.problems) (.record problems) →
      settings.brokenFields ≠ [] → settings.validate = .error (Problem.failure problems) := by
  have hvalidate : settings.brokenFields = [] → settings.validate =
      if '.' ∈ settings.mesh.rootNamespace.toList then .error dottedRoot else .ok () :=
    fun h => Settings.validate_of_problems_eq_nil (settings.problems_eq_nil_iff.2 h)
  have hrefuse := settings.validate_of_brokenFields_ne_nil
  refine ⟨?_, ?_, fun path => ?_, settings.pairwise_brokenFields, fun problems h hbroken => ?_⟩
  · rw [settings.wellFormed_iff]
    by_cases hbroken : settings.brokenFields = []
    · rw [hvalidate hbroken]
      by_cases hdot : '.' ∈ settings.mesh.rootNamespace.toList
      · simp [hdot]
      · simp [hdot, hbroken]
    · rw [hrefuse hbroken]
      simp [hbroken]
  · cases hfields : settings.brokenFields with
    | nil => exact hvalidate hfields
    | cons field rest =>
      rw [hrefuse (by simp [hfields]), settings.failure_problems, hfields]
      cases rest with
      | nil => simp [Problem.fieldText]
      | cons next others => rfl
  · simp only [Settings.brokenFields, List.map_append, List.mem_append,
      Settings.mem_map_fst_brokenUnless, not_not, ne_eq, or_assoc]
  · rw [hrefuse hbroken, Problem.failure_eq_of_reordered h]

/-- Settings in which every field breaks a rule are refused with a report of all three, in whatever
order the problems are met; a dot in the root namespace alone is reported for that field. -/
theorem validate_names_broken_fields_all :
    let settings : Settings :=
      { mesh := { identityDomain := "svc..local", rootNamespace := "" }, log := { level := "" } }
    let problems := settings.problems.reverse
    let dotted : Settings := { mesh := { rootNamespace := "istio.system" } }
    (Problem.Reordered (.record settings.problems) (.record problems) ∧
      settings.brokenFields ≠ []) ∧
    settings.validate = .error (Problem.failure problems) ∧
    settings.validate = .error ⟨.validation none,
      "Validation failed: " ++
      "analyzer.identity_domain: Identity domain must be a dot-separated DNS suffix; " ++
      "analyzer.root_namespace: Root namespace must be 1-63 characters; " ++
      "observability.log_level: Log level cannot be empty"⟩ ∧
    dotted.validate = .error ⟨.validation (some "analyzer.root_namespace"),
      "Root namespace must be a single DNS label"⟩ := by
  intro settings problems dotted
  have hreordered : Problem.Reordered (.record settings.problems) (.record problems) :=
    .fields (List.reverse_perm _).symm
  have hbroken : settings.brokenFields ≠ [] := by decide
  obtain ⟨-, hreport, -, -, horder⟩ := validate_names_broken_fields settings
  obtain ⟨-, hdotted, -⟩ := validate_names_broken_fields dotted
  exact ⟨⟨hreordered, hbroken⟩, horder problems hreordered hbroken,
    hreport.trans (by decide +kernel), hdotted.trans (by decide)⟩

end MeshAudit

import MeshAudit.Mesh.Host
import MeshAudit.Settings.Basic
import MeshAudit.Settings.Problem

/-!
# Valid settings

The identity domain is a dotted name, the root namespace a single label of bounded length, and the
log level is named. All problems are reported at once, but whether the root namespace is a single
label is looked at only when there is no other problem.
-/

namespace MeshAudit

/-- A character of a label of the identity domain. -/
def isDomainChar (c : Char) : Bool := c.isAlphanum || c = '-'

/-- Whether a text is a dotted name: labels that are not empty, with dots between them. -/
def isDottedName (s : String) : Bool :=
  (hostLabels s).all fun label => label ≠ "" && label.toList.all isDomainChar

/-- The reason when a rule is broken. -/
def reasonUnless (holds : Bool) (reason : String) : List (Option String) :=
  if holds then [] else [some reason]

/-- The problem of a field, if there is a reason for one. -/
def fieldProblem (name : String) (reasons : List (Option String)) : List (String × Problem) :=
  if reasons.isEmpty then [] else [(name, .reasons reasons)]

/-- The problem of a record inside a record, if any of its fields has one. -/
def recordProblem (name : String) (fields : List (String × Problem)) : List (String × Problem) :=
  if fields.isEmpty then [] else [(name, .record fields)]

/-- The rules that settings of the mesh break. -/
def MeshSettings.problems (settings : MeshSettings) : List (String × Problem) :=
  fieldProblem "identity_domain"
      (reasonUnless (settings.identityDomain ≠ "") "Identity domain cannot be empty" ++
        reasonUnless (isDottedName settings.identityDomain)
          "Identity domain must be a dot-separated DNS suffix") ++
    fieldProblem "root_namespace"
      (reasonUnless
        (1 ≤ settings.rootNamespace.length && settings.rootNamespace.length ≤ 63)
        "Root namespace must be 1-63 characters")

/-- The rules that settings for logging break. -/
def LogSettings.problems (settings : LogSettings) : List (String × Problem) :=
  fieldProblem "log_level" (reasonUnless (settings.level ≠ "") "Log level cannot be empty")

/-- The rules that settings break. -/
def Settings.problems (settings : Settings) : List (String × Problem) :=
  recordProblem "analyzer" settings.mesh.problems ++
    recordProblem "observability" settings.log.problems

/-- Accept settings of the mesh that break no rule. -/
def MeshSettings.validate (settings : MeshSettings) : Except Failure Unit :=
  if settings.problems.isEmpty then .ok () else .error (Problem.failure settings.problems)

/-- Accept settings that break no rule and whose root namespace is a single label. -/
def Settings.validate (settings : Settings) : Except Failure Unit :=
  if !settings.problems.isEmpty then .error (Problem.failure settings.problems)
  else if settings.mesh.rootNamespace.toList.contains '.' then
    .error ⟨.validation (some "analyzer.root_namespace"),
      "Root namespace must be a single DNS label"⟩
  else .ok ()

/-- A rule gives no reason when it holds. -/
@[simp] theorem reasonUnless_eq_nil {holds : Bool} {reason : String} :
    reasonUnless holds reason = [] ↔ holds = true := by
  cases holds <;> simp [reasonUnless]

/-- A field has no problem when there is no reason for one. -/
@[simp] theorem fieldProblem_eq_nil {name : String} {reasons : List (Option String)} :
    fieldProblem name reasons = [] ↔ reasons = [] := by
  cases reasons <;> simp [fieldProblem]

/-- A record has no problem when none of its fields has one. -/
@[simp] theorem recordProblem_eq_nil {name : String} {fields : List (String × Problem)} :
    recordProblem name fields = [] ↔ fields = [] := by
  cases fields <;> simp [recordProblem]

/-- The default settings are accepted. -/
theorem Settings.validate_default : Settings.validate {} = .ok () := by rfl

/-- Accepted settings break no rule. -/
theorem Settings.problems_eq_nil_of_validate {settings : Settings}
    (h : settings.validate = .ok ()) : settings.problems = [] := by
  unfold Settings.validate at h
  split at h
  · cases h
  · next hnone => simpa using hnone

/-- The identity domain of accepted settings is a dotted name. -/
theorem Settings.isDottedName_of_validate {settings : Settings} (h : settings.validate = .ok ()) :
    isDottedName settings.mesh.identityDomain = true := by
  have hproblems := Settings.problems_eq_nil_of_validate h
  simp only [Settings.problems, MeshSettings.problems, List.append_eq_nil_iff,
    recordProblem_eq_nil, fieldProblem_eq_nil, reasonUnless_eq_nil] at hproblems
  exact hproblems.1.1.2

/-- A dotted name has no empty label. -/
theorem not_mem_hostLabels_of_isDottedName {name : String} (h : isDottedName name = true) :
    "" ∉ hostLabels name := by
  intro hmem
  have hlabel := List.all_eq_true.1 h "" hmem
  simp at hlabel

end MeshAudit

import MeshAudit.UnknownWord

/-!
# Findings

A finding says which check of the catalogue failed and where in the object. Errors make the
object invalid; warnings are advice.
-/

namespace MeshAudit

/-- How serious a finding is. -/
inductive Severity where
  /-- The object cannot work as it is written. -/
  | error
  /-- The object may not do what was meant. -/
  | warning
  deriving DecidableEq, Repr

namespace Severity

/-- Name of the severity. -/
def label : Severity → String
  | error => "error"
  | warning => "warning"

/-- Whether findings of this severity pass a filter for a minimum. -/
def atLeast (severity minimum : Severity) : Bool :=
  match minimum with
  | warning => true
  | error => severity = error

/-- The severity with a name; ASCII letters match in either case. -/
def ofWord (word : String) : Except UnknownWord Severity :=
  match [error, warning].find? fun severity => severity.label = word.toLower with
  | some severity => .ok severity
  | none => .error (.severity word)

/-- Every severity passes the filter for warnings. -/
theorem atLeast_warning (severity : Severity) : severity.atLeast warning = true := rfl

/-- Errors alone pass the filter for errors. -/
@[simp] theorem atLeast_error (severity : Severity) :
    severity.atLeast error = true ↔ severity = error := by
  simp [atLeast]

/-- Errors pass every filter. -/
@[simp] theorem error_atLeast (minimum : Severity) : error.atLeast minimum = true := by
  cases minimum <;> rfl

end Severity

/-- The catalogue of checks. -/
inductive Check where
  /-- Two gateways of one ingress expose the same host on the same port. -/
  | gatewayMultiMatch
  /-- Two virtual services claim the same host. -/
  | virtualServiceSingleHost
  /-- A destination rule switches off the mTLS that its namespace enforces. -/
  | policyMtlsEnabled
  /-- A destination rule switches off the mTLS that the mesh enforces. -/
  | meshPolicyMtlsEnabled
  /-- A destination rule requires mTLS that no policy provides. -/
  | namespacePolicyMissing
  /-- A policy switches off the mTLS that a destination rule requires. -/
  | disableRuleMissing
  deriving DecidableEq, Repr

namespace Check

/-- All checks in the order of the catalogue. -/
def all : List Check :=
  [gatewayMultiMatch, virtualServiceSingleHost, policyMtlsEnabled, meshPolicyMtlsEnabled,
    namespacePolicyMissing, disableRuleMissing]

/-- Code of the check in reports. -/
def code : Check → String
  | gatewayMultiMatch => "gateways.multimatch"
  | virtualServiceSingleHost => "virtualservices.singlehost"
  | policyMtlsEnabled => "destinationrules.mtls.policymtlsenabled"
  | meshPolicyMtlsEnabled => "destinationrules.mtls.meshpolicymtlsenabled"
  | namespacePolicyMissing => "destinationrules.mtls.nspolicymissing"
  | disableRuleMissing => "peerauthentications.mtls.disabledestinationrulemissing"

/-- Severity of the findings of the check. -/
def severity : Check → Severity
  | virtualServiceSingleHost => .warning
  | _ => .error

/-- Explanation of the check. -/
def description : Check → String
  | gatewayMultiMatch => "More than one Gateway for the same host port combination"
  | virtualServiceSingleHost => "More than one Virtual Service for same host"
  | policyMtlsEnabled => "Policy with TLS strict mode found, it should be permissive"
  | meshPolicyMtlsEnabled => "Mesh-wide policy enabling mTLS found, permissive policy is needed"
  | namespacePolicyMissing => "PeerAuthentication enabling namespace-wide mTLS is missing"
  | disableRuleMissing => "Destination Rule disabling namespace-wide mTLS is missing"

end Check

/-- A failed check at a place of an object. -/
structure Finding where
  /-- The check that failed. -/
  check : Check
  /-- Place in the object: names and positions with slashes between them. -/
  path : String
  /-- How serious it is. -/
  severity : Severity
  deriving DecidableEq, Repr

/-- A finding with the severity of its check. -/
def Check.at (check : Check) (path : String) : Finding := ⟨check, path, check.severity⟩

end MeshAudit

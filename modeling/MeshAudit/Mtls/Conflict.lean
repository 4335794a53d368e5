import MeshAudit.Mtls.Policy
import MeshAudit.Graph.Basic

/-!
# Conflicts between mTLS policies

A destination rule for a whole namespace and the peer authentications that apply there have to
agree. Each check looks at one object beside its peers and fails at most once.
-/

namespace MeshAudit

/-- Check of a destination rule that switches mTLS off for its namespace. The first policy of the
namespace that lets mTLS in decides; where there is none, a strict policy of the mesh does. -/
def disabledRuleCheck? (settings : MeshSettings) (policies : Policies) (rule : MeshObject) :
    Option Check :=
  if namespaceWideMode settings rule.ns rule = .disable then
    match (policies.own.map peerAuthenticationMode).find? fun mode =>
        mode = .strict || mode = .permissive with
    | some .strict => some .policyMtlsEnabled
    | some _ => none
    | none =>
      if policies.root.any fun policy => peerAuthenticationMode policy = .strict then
        some .meshPolicyMtlsEnabled
      else none
  else none

/-- Check of a destination rule that requires mTLS in its namespace: some policy must set a mode. -/
def requiredRuleCheck? (settings : MeshSettings) (policies : Policies) (rule : MeshObject) :
    Option Check :=
  if (namespaceWideMode settings rule.ns rule).requiresMutual &&
      !(policies.own ++ policies.root).any fun policy => (peerAuthenticationMode policy).isSet then
    some .namespacePolicyMissing
  else none

/-- Check of a peer authentication that switches mTLS off: no destination rule for its namespace or
for the mesh may require it. -/
def disabledPolicyCheck? (settings : MeshSettings) (rules : List MeshObject)
    (policy : MeshObject) : Option Check :=
  if peerAuthenticationMode policy = .disable &&
      rules.any fun rule => (namespaceWideMode settings policy.ns rule).requiresMutual ||
        (meshWideMode rule).requiresMutual then
    some .disableRuleMissing
  else none

/-- Place of the mode in a destination rule. -/
def ruleModePath : String := "spec/trafficPolicy/tls/mode"

/-- Place of the mode in a peer authentication. -/
def policyModePath : String := "spec/mtls"

/-- Entry of an object with the finding of a check that failed. -/
def checkedEntry (object : MeshObject) (path : String) (failed : Option Check) : Entry :=
  .ofObject object (failed.toList.map fun check => check.at path) failed.isNone

/-- Findings about destination rules, where each is given with the policies of its namespace. -/
def destinationRuleGraph (settings : MeshSettings) (rules : List (MeshObject × Policies)) : Graph :=
  .ofEntries (rules.flatMap fun (rule, policies) =>
    [checkedEntry rule ruleModePath (disabledRuleCheck? settings policies rule),
      checkedEntry rule ruleModePath (requiredRuleCheck? settings policies rule)])

/-- Findings about peer authentications. Those of the root namespace are not checked. -/
def peerAuthenticationGraph (settings : MeshSettings) (policies rules : List MeshObject) : Graph :=
  .ofEntries ((policies.filter fun policy => policy.ns ≠ settings.rootNamespace).map fun policy =>
    checkedEntry policy policyModePath (disabledPolicyCheck? settings rules policy))

end MeshAudit

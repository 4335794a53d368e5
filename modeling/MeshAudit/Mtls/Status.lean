import MeshAudit.Mtls.Mode
import MeshAudit.Settings.Basic

/-!
# mTLS status

Whether mTLS is on follows from two modes, one of the destination rules and one of the peer
authentications of a scope. What a namespace leaves open it inherits from the mesh.
-/

namespace MeshAudit

/-- Whether mTLS is on in a namespace or in the mesh. -/
inductive MtlsStatus where
  /-- All traffic uses mTLS. -/
  | enabled
  /-- Some traffic uses mTLS, or the two modes do not fit. -/
  | partiallyEnabled
  /-- Nothing asks for mTLS. -/
  | notEnabled
  /-- mTLS is switched off. -/
  | disabled
  deriving DecidableEq, Repr

namespace MtlsStatus

/-- All statuses. -/
def all : List MtlsStatus := [enabled, partiallyEnabled, notEnabled, disabled]

/-- Name of the status in reports. -/
def label : MtlsStatus → String
  | enabled => "MTLS_ENABLED"
  | partiallyEnabled => "MTLS_PARTIALLY_ENABLED"
  | notEnabled => "MTLS_NOT_ENABLED"
  | disabled => "MTLS_DISABLED"

/-- Whether the status leaves nothing to inherit. -/
def isDefined : MtlsStatus → Bool
  | enabled => true
  | disabled => true
  | _ => false

end MtlsStatus

/-- The two modes found in a scope and the status they lead to. -/
structure ScopeStatus where
  /-- Mode of the destination rules. -/
  rule : MtlsMode := .unset
  /-- Mode of the peer authentications. -/
  policy : MtlsMode := .unset
  /-- Status, which only a scope that was never looked at lacks. -/
  status : Option MtlsStatus := none
  deriving DecidableEq, Repr

namespace MeshSettings

/-- Status of a scope with a destination rule mode and a peer authentication mode. -/
def tableStatus (settings : MeshSettings) (rule policy : MtlsMode) : MtlsStatus :=
  let negotiated := !rule.isSet && settings.autoMtls
  let required := policy = .strict || (policy = .permissive && settings.allowPermissive)
  if required && (rule.requiresMutual || negotiated) then .enabled
  else if policy = .disable && (rule = .disable || negotiated) then .disabled
  else if !policy.isSet && !rule.isSet then .notEnabled
  else .partiallyEnabled

/-- The two modes of a scope with their status. -/
def scopeStatus (settings : MeshSettings) (rule policy : MtlsMode) : ScopeStatus :=
  ⟨rule, policy, some (settings.tableStatus rule policy)⟩

/-- Whether negotiation completes a mesh with one mode to full mTLS. -/
def completesHalf (settings : MeshSettings) (mesh : ScopeStatus) : Bool :=
  settings.autoMtls &&
    ((mesh.policy = .strict && !mesh.rule.isSet) ||
      (mesh.rule.requiresMutual && !mesh.policy.isSet) ||
      (settings.allowPermissive && mesh.policy = .permissive && !mesh.rule.isSet))

/-- Status of a namespace once it inherits from the mesh. A namespace that is partly configured has
its gaps filled with the modes of the mesh and is then looked at as if it were a mesh. -/
def overallStatus (settings : MeshSettings) (ns mesh : ScopeStatus) : MtlsStatus :=
  if ns.status = some .enabled then .enabled
  else if ns.status = some .disabled then .disabled
  else if ns.status = some .partiallyEnabled then
    settings.overallStatus {}
      (settings.scopeStatus (ns.rule.orElse mesh.rule) (ns.policy.orElse mesh.policy))
  else if mesh.status = some .enabled then .enabled
  else if mesh.status = some .disabled then .disabled
  else if !mesh.policy.isSet && !mesh.rule.isSet then .notEnabled
  else if (mesh.policy = .disable && !mesh.rule.isSet) ||
      (mesh.rule = .disable && !mesh.policy.isSet) then .disabled
  else if settings.completesHalf mesh then .enabled
  else .partiallyEnabled
termination_by if ns.status = some .partiallyEnabled then 1 else 0
decreasing_by simp_all

/-- Status of a mesh with the given modes. -/
def meshStatus (settings : MeshSettings) (rule policy : MtlsMode) : ScopeStatus :=
  let scope := settings.scopeStatus rule policy
  { scope with status := some (settings.overallStatus {} scope) }

end MeshSettings

end MeshAudit

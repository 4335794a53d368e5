import MeshAudit.Document.Record
import MeshAudit.Settings.Basic

/-!
# Settings from documents

Settings are read from a record of two records, in which every field has a default.
-/

namespace MeshAudit

/-- Names of the fields of the settings of the mesh. -/
def MeshSettings.fieldNames : List String :=
  ["identity_domain", "root_namespace", "auto_mtls_enabled", "allow_permissive"]

/-- Names of the fields of the settings for logging. -/
def LogSettings.fieldNames : List String := ["log_level", "json_logs"]

/-- Names of the two groups of settings. -/
def Settings.fieldNames : List String := ["analyzer", "observability"]

/-- Settings of the mesh from a record. -/
def MeshSettings.ofValue? (v : Value) : Option MeshSettings := do
  let [domain, root, auto, permissive] ← v.record? fieldNames | none
  let defaults : MeshSettings := {}
  some {
    identityDomain := ← Value.textField? defaults.identityDomain domain
    rootNamespace := ← Value.textField? defaults.rootNamespace root
    autoMtls := ← Value.boolField? defaults.autoMtls auto
    allowPermissive := ← Value.boolField? defaults.allowPermissive permissive }

/-- Settings for logging from a record. -/
def LogSettings.ofValue? (v : Value) : Option LogSettings := do
  let [level, json] ← v.record? fieldNames | none
  let defaults : LogSettings := {}
  some {
    level := ← Value.textField? defaults.level level
    json := ← Value.boolField? defaults.json json }

/-- Settings from a record; a group that is left out has its defaults. -/
def Settings.ofValue? (v : Value) : Option Settings := do
  let [mesh, log] ← v.record? fieldNames | none
  some {
    mesh := ← match mesh with
      | some group => MeshSettings.ofValue? group
      | none => some {}
    log := ← match log with
      | some group => LogSettings.ofValue? group
      | none => some {} }

end MeshAudit

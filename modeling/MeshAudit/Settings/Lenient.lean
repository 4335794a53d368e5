import MeshAudit.Number.Decimal
import MeshAudit.Settings.Layer
import MeshAudit.Settings.Record

/-!
# Lenient settings

Settings that were gathered from layers are read leniently, since a variable of the environment
cannot say whether it means a number or a text: any scalar is a text, and some words and all numbers
are truth values.
-/

namespace MeshAudit

namespace Value

/-- The text of any scalar. Whole numbers beyond sixty-four bits with a sign are read as rounded. -/
def scalarText? : Value → Option String
  | string s => some s
  | bool b => some (if b then "true" else "false")
  | number (.integer n) =>
    some (if Text.fitsInt64 n then toString n
      else (Binary64.ofRatio (n < 0) n.natAbs 1).positionalText)
  | number (.float x) => some x.positionalText
  | _ => none

/-- The truth value of any scalar: a number is true unless it is zero. -/
def scalarBool? : Value → Option Bool
  | bool b => some b
  | number (.integer n) => some (n ≠ 0)
  | number (.float x) => some (x.magnitude ≠ 0)
  | string s =>
    let word := Text.lowercase s
    if word = "1" ∨ word = "true" ∨ word = "on" ∨ word = "yes" then some true
    else if word = "0" ∨ word = "false" ∨ word = "off" ∨ word = "no" then some false
    else none
  | _ => none

/-- The fields of a record in the order of their names, absent ones as `none`, where a list may have
more items than the record has fields. -/
def looseRecord? (names : List String) : Value → Option (List (Option Value))
  | object fields => some (names.map fun name => fields.lookup name)
  | array items => some ((List.range names.length).map fun i => items[i]?)
  | _ => none

/-- A text field, absent with its default. -/
def scalarTextField? (default : String) : Option Value → Option String
  | none => some default
  | some v => v.scalarText?

/-- A truth field, absent with its default. -/
def scalarBoolField? (default : Bool) : Option Value → Option Bool
  | none => some default
  | some v => v.scalarBool?

end Value

/-- Settings of the mesh from gathered values. -/
def MeshSettings.ofLayers? (v : Value) : Option MeshSettings := do
  let [domain, root, auto, permissive] ← v.looseRecord? fieldNames | none
  let defaults : MeshSettings := {}
  some {
    identityDomain := ← Value.scalarTextField? defaults.identityDomain domain
    rootNamespace := ← Value.scalarTextField? defaults.rootNamespace root
    autoMtls := ← Value.scalarBoolField? defaults.autoMtls auto
    allowPermissive := ← Value.scalarBoolField? defaults.allowPermissive permissive }

/-- Settings for logging from gathered values. -/
def LogSettings.ofLayers? (v : Value) : Option LogSettings := do
  let [level, json] ← v.looseRecord? fieldNames | none
  let defaults : LogSettings := {}
  some {
    level := ← Value.scalarTextField? defaults.level level
    json := ← Value.scalarBoolField? defaults.json json }

/-- Settings from gathered values. -/
def Settings.ofLayers? (v : Value) : Option Settings := do
  let [mesh, log] ← v.looseRecord? fieldNames | none
  some {
    mesh := ← match mesh with
      | some group => MeshSettings.ofLayers? group
      | none => some {}
    log := ← match log with
      | some group => LogSettings.ofLayers? group
      | none => some {} }

/-- The values of settings. -/
def Settings.toValue (settings : Settings) : Value :=
  .ofFields [
    ("analyzer", .ofFields [
      ("identity_domain", .string settings.mesh.identityDomain),
      ("root_namespace", .string settings.mesh.rootNamespace),
      ("auto_mtls_enabled", .bool settings.mesh.autoMtls),
      ("allow_permissive", .bool settings.mesh.allowPermissive)]),
    ("observability", .ofFields [
      ("log_level", .string settings.log.level),
      ("json_logs", .bool settings.log.json)])]

end MeshAudit

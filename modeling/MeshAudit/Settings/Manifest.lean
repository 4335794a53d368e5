import MeshAudit.Failure
import MeshAudit.Settings.Record
import MeshAudit.Yaml.Building
import MeshAudit.Yaml.Scalar
import MeshAudit.Yaml.Tokens

/-!
# Settings from YAML

Settings are read from one YAML document, and what the field is decides how a scalar is read: a
text field takes any scalar as it is written. What is left empty has its defaults.
-/

namespace MeshAudit

namespace Yaml.Document

/-- The text of a scalar in any form. -/
def text? (document : Document) (node : Node) : Option String :=
  match document.resolve? node with
  | some (.scalar _ _ text) => some text
  | _ => none

/-- The truth value of a scalar without quotes, or of lines with a tag for truth values. -/
def bool? (document : Document) (node : Node) : Option Bool :=
  match document.resolve? node with
  | some (.scalar _ .plain text) => boolOfWord? text
  | some (.scalar (some "tag:yaml.org,2002:bool") .literal text) => boolOfWord? text
  | _ => none

/-- The fields of a record by their names; a place that is left empty is an empty record. -/
def namedFields? (document : Document) (node : Node) : Option (List (String × Node)) :=
  match document.resolve? node with
  | some (.mapping _ fields) =>
    fields.mapM fun field => (document.text? field.1).map fun name => (name, field.2)
  | some (.scalar _ .plain "") => some []
  | _ => none

/-- The fields of a record in the order of their names, absent ones as `none`. -/
def record? (document : Document) (names : List String) (node : Node) :
    Option (List (Option Node)) := do
  uniqueFields? names (← document.namedFields? node)

/-- A text field, absent with its default. -/
def textField? (document : Document) (default : String) : Option Node → Option String
  | none => some default
  | some node => document.text? node

/-- A truth field, absent with its default. -/
def boolField? (document : Document) (default : Bool) : Option Node → Option Bool
  | none => some default
  | some node => document.bool? node

end Yaml.Document

/-- Settings of the mesh from a node of a document. -/
def MeshSettings.ofNode? (document : Yaml.Document) (node : Yaml.Node) : Option MeshSettings := do
  let [domain, root, auto, permissive] ← document.record? fieldNames node | none
  let defaults : MeshSettings := {}
  some {
    identityDomain := ← document.textField? defaults.identityDomain domain
    rootNamespace := ← document.textField? defaults.rootNamespace root
    autoMtls := ← document.boolField? defaults.autoMtls auto
    allowPermissive := ← document.boolField? defaults.allowPermissive permissive }

/-- Settings for logging from a node of a document. -/
def LogSettings.ofNode? (document : Yaml.Document) (node : Yaml.Node) : Option LogSettings := do
  let [level, json] ← document.record? fieldNames node | none
  let defaults : LogSettings := {}
  some {
    level := ← document.textField? defaults.level level
    json := ← document.boolField? defaults.json json }

namespace Settings

/-- Settings from a document. -/
def ofDocument? (document : Yaml.Document) : Option Settings := do
  let [mesh, log] ← document.record? fieldNames document.root | none
  some {
    mesh := ← match mesh with
      | some group => MeshSettings.ofNode? document group
      | none => some {}
    log := ← match log with
      | some group => LogSettings.ofNode? document group
      | none => some {} }

/-- Settings from a text with at most one document; without one they have their defaults. -/
def ofYaml (text : String) : Except Failure Settings :=
  match Yaml.documentsOf (Yaml.tokens text) with
  | [] => .ok {}
  | [some document] =>
    match ofDocument? document with
    | some settings => .ok settings
    | none => .error .badYaml
  | _ => .error .badYaml

end Settings

end MeshAudit

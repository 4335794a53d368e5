import MeshAudit.Mesh.Kind
import MeshAudit.Document.Pointer
import MeshAudit.Document.Record

/-!
# Mesh objects

A mesh object is a control-plane resource: its kind, its name, the namespace and cluster it lives
in, and a free-form body. Every reader of the body takes an absent or wrongly typed field as no
information instead of failing.
-/

namespace MeshAudit

/-- A control-plane resource. -/
structure MeshObject where
  /-- What the object configures. -/
  kind : Kind
  /-- Name inside its namespace. -/
  name : String
  /-- Namespace, empty when the object names none. -/
  ns : String := ""
  /-- Cluster that the object names as its own. -/
  clusterName : Option String := none
  /-- The body. -/
  spec : Value := .null
  deriving Repr

/-- The text items of a list with their positions in it; anything but a list has none. -/
def textItems (v : Option Value) : List (Nat × String) :=
  match v with
  | some (.array items) =>
    items.zipIdx.filterMap fun item => item.1.asString?.map fun s => (item.2, s)
  | _ => []

namespace MeshObject

/-- The object moved to a cluster. -/
def withCluster (object : MeshObject) (cluster : String) : MeshObject :=
  { object with clusterName := some cluster }

/-- The cluster of an object; an absent or empty name leaves the given one. -/
def clusterOr (object : MeshObject) (default : String) : String :=
  match object.clusterName with
  | some cluster => if cluster = "" then default else cluster
  | none => default

/-- A node of the body, where a node that holds nothing counts as absent. -/
def body? (object : MeshObject) (steps : List String) : Option Value :=
  (object.spec.follow? steps).filter fun v => !v.isNull

/-- A text of the body. -/
def bodyText? (object : MeshObject) (steps : List String) : Option String :=
  (object.body? steps).bind Value.asString?

/-- The texts of a list of the body with their positions. -/
def bodyTexts (object : MeshObject) (steps : List String) : List (Nat × String) :=
  textItems (object.body? steps)

/-- Read a kind: its manifest name, or an object whose one field has that name and holds nothing. -/
def kindOf? (v : Value) : Option Kind :=
  match v with
  | .string word => Kind.all.find? fun kind => kind.resource = word
  | .object [(word, .null)] => Kind.all.find? fun kind => kind.resource = word
  | _ => none

/-- Read an object from a record of kind, metadata and body; the metadata is a record of name,
namespace and cluster. -/
def ofValue? (v : Value) : Option MeshObject := do
  let [some kind, some metadata, spec] ← v.record? ["kind", "metadata", "spec"] | none
  let [some name, ns, cluster] ← metadata.record? ["name", "namespace", "clusterName"] | none
  some {
    kind := ← kindOf? kind
    name := ← name.asString?
    ns := ← Value.textField? "" ns
    clusterName := ← Value.optionalTextField? cluster
    spec := spec.getD .null }

/-- The object as a document. -/
def toValue (object : MeshObject) : Value :=
  let cluster := object.clusterName.toList.map fun name => ("clusterName", .string name)
  .ofFields [
    ("kind", .string object.kind.resource),
    ("metadata", .ofFields
      ([("name", .string object.name), ("namespace", .string object.ns)] ++ cluster)),
    ("spec", object.spec)]

end MeshObject

end MeshAudit

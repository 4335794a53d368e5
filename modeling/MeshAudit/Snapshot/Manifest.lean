import MeshAudit.Failure
import MeshAudit.Snapshot.Basic
import MeshAudit.UnknownWord
import MeshAudit.Yaml.Datum

/-!
# Manifests

A manifest is a sequence of YAML documents, each of which may describe an object. Documents that
hold nothing, and those of a kind that is not analysed, are passed over; the first one that is
wrong makes the whole manifest fail.
-/

namespace MeshAudit

namespace Yaml.Datum

mutual

/-- The document value of a piece of data, whose keys must be texts and which must have no tags.
Numbers that are not finite become nothing. -/
def toValue? : Datum → Option Value
  | null => some .null
  | bool b => some (.bool b)
  | number (.integer n) => some (.integer n)
  | number (.float x) => some (if x.isFinite then .number (.float x) else .null)
  | string s => some (.string s)
  | sequence items => (itemValues? items).map .array
  | mapping fields => (fieldValues? fields).map .ofFields
  | tagged _ _ => none

/-- The document values of all items. -/
def itemValues? : List Datum → Option (List Value)
  | [] => some []
  | item :: rest => do
    let value ← item.toValue?
    let values ← itemValues? rest
    some (value :: values)

/-- The names and document values of all fields. -/
def fieldValues? : List (Datum × Datum) → Option (List (String × Value))
  | [] => some []
  | (key, value) :: rest => do
    let name ← key.asString?
    let value ← value.toValue?
    let fields ← fieldValues? rest
    some ((name, value) :: fields)

end

/-- The fields of a record by their names; nothing is an empty record. -/
def namedFields? (datum : Datum) : Option (List (String × Datum)) :=
  match datum.untagged with
  | null => some []
  | mapping fields => fields.mapM fun field => field.1.asString?.map fun name => (name, field.2)
  | _ => none

/-- The fields of a record in the order of their names, absent ones as `none`. -/
def record? (names : List String) (datum : Datum) : Option (List (Option Datum)) := do
  uniqueFields? names (← datum.namedFields?)

/-- The value of a key that is a text. -/
def field? (name : String) (datum : Datum) : Option Datum :=
  match datum.untagged with
  | mapping fields =>
    (fields.find? fun field => field.1.same (string name)).map fun field => field.2
  | _ => none

/-- The field of a name is the first one of a mapping that has this name for a key. -/
theorem field?_eq_some_iff {name : String} {datum value : Datum} :
    datum.field? name = some value ↔
      ∃ before after, datum.untagged = mapping (before ++ (string name, value) :: after) ∧
        ∀ field ∈ before, field.1 ≠ string name := by
  unfold field?
  cases datum.untagged with
  | mapping fields =>
    simp only [Option.map_eq_some_iff, List.find?_eq_some_iff_append, mapping.injEq,
      Bool.not_eq_true', ← Bool.not_eq_true, same_string]
    constructor
    · rintro ⟨⟨_, _⟩, ⟨rfl, before, after, hsplit, hbefore⟩, rfl⟩
      exact ⟨before, after, hsplit, hbefore⟩
    · rintro ⟨before, after, hsplit, hbefore⟩
      exact ⟨_, ⟨rfl, before, after, hsplit, hbefore⟩, rfl⟩
  | _ => simp

end Yaml.Datum

open Yaml (Datum)

/-- Read an object of a kind from a record of kind, metadata and body; the metadata is a record of
name, namespace and cluster. -/
def MeshObject.ofDatum? (kind : Kind) (datum : Datum) : Option MeshObject := do
  let [some word, some metadata, spec] ← datum.record? ["kind", "metadata", "spec"] | none
  let [some name, ns, cluster] ← metadata.record? ["name", "namespace", "clusterName"] | none
  let _ ← word.asString?
  some {
    kind := kind
    name := ← name.asString?
    ns := ← match ns with
      | some ns => ns.asString?
      | none => some ""
    clusterName := ← match cluster with
      | none => some none
      | some .null => some none
      | some cluster => cluster.asString?.map some
    spec := ← match spec with
      | some spec => spec.toValue?
      | none => some .null }

/-- The word for the kind of object that a document describes. -/
def kindWord? (datum : Datum) : Option String := (datum.field? "kind").bind Datum.asString?

/-- A document has a kind when it is a mapping whose first field of that name holds a text. -/
theorem kindWord?_eq_some_iff {datum : Datum} {word : String} :
    kindWord? datum = some word ↔
      ∃ before kind after,
        datum.untagged = .mapping (before ++ (.string "kind", kind) :: after) ∧
        (∀ field ∈ before, field.1 ≠ .string "kind") ∧ kind.untagged = .string word := by
  simp only [kindWord?, Option.bind_eq_some_iff, Datum.field?_eq_some_iff,
    Datum.asString?_eq_some_iff]
  constructor
  · rintro ⟨kind, ⟨before, after, hfields, hbefore⟩, htext⟩
    exact ⟨before, kind, after, hfields, hbefore, htext⟩
  · rintro ⟨before, kind, after, hfields, hbefore, htext⟩
    exact ⟨kind, ⟨before, after, hfields, hbefore⟩, htext⟩

/-- The object that a document describes, if it describes one that is analysed. -/
def documentObject (position : Nat) (document : Option Datum) :
    Except Failure (Option MeshObject) := do
  let some datum := document
    | .error (Failure.badYaml.inContext ("Failed to parse snapshot document " ++ toString position))
  match datum.untagged with
  | .null => return none
  | _ =>
    let some word := kindWord? datum
      | .error ⟨.snapshot (some position), "document has no kind"⟩
    match Kind.ofWord word with
    | .error _ => return none
    | .ok kind =>
      match MeshObject.ofDatum? kind datum with
      | some object => return some object
      | none =>
        .error (Failure.badYaml.inContext
          ("Failed to read " ++ kind.label ++ " in snapshot document " ++ toString position))

namespace Snapshot

/-- The snapshot of a sequence of documents. -/
def ofDocuments (documents : List (Option Datum)) : Except Failure Snapshot := do
  let objects ← documents.zipIdx.mapM fun document => documentObject document.2 document.1
  return ofObjects (objects.filterMap id)

/-- The snapshot of a manifest. -/
def ofYaml (text : String) : Except Failure Snapshot := ofDocuments (Yaml.readAll text)

/-- The snapshot of a manifest file with a path and its text, if it can be read. -/
def ofFile (path : String) (text : Option String) : Except Failure Snapshot :=
  match text with
  | some text => ofYaml text
  | none => .error (Failure.unreadable.inContext ("Failed to read snapshot " ++ path))

end Snapshot

end MeshAudit

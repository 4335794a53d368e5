import MeshAudit.Graph.Finding
import MeshAudit.Mesh.Key
import MeshAudit.Ordered.SortedSet

/-!
# Entries of a validation graph

An entry collects what is known about one object: its findings, whether it is valid, and the other
objects that it is in conflict with. Entries of one object merge: findings follow one another,
references are united, and the merged entry is valid when both were.
-/

namespace MeshAudit

/-- Findings and conflict references of one object. -/
@[ext]
structure Entry where
  /-- The object. -/
  key : ObjectKey
  /-- Whether no finding is an error. -/
  valid : Bool
  /-- The findings in the order they were made. -/
  findings : List Finding
  /-- The other objects of its conflicts. -/
  references : SortedSet ObjectKey
  deriving DecidableEq

namespace Entry

/-- The entry of an object about which nothing is known. -/
def ofKey (key : ObjectKey) : Entry := ⟨key, true, [], ∅⟩

/-- Add a finding; an error makes the entry invalid. -/
def addFinding (entry : Entry) (finding : Finding) : Entry :=
  { entry with
    valid := entry.valid && finding.severity != .error
    findings := entry.findings ++ [finding] }

/-- Refer to another object; a reference to the entry's own object is dropped. -/
def addReference (entry : Entry) (key : ObjectKey) : Entry :=
  if key = entry.key then entry else { entry with references := entry.references.insert key }

/-- Refer to several objects. -/
def addReferences (entry : Entry) (keys : List ObjectKey) : Entry :=
  keys.foldl addReference entry

/-- Take in another entry of the same object. -/
def merge (entry other : Entry) : Entry :=
  { entry with
    valid := entry.valid && other.valid
    findings := entry.findings ++ other.findings
    references := entry.references.union other.references }

/-- The entry of an object with the outcome of its checks. -/
def ofObject (object : MeshObject) (findings : List Finding) (valid : Bool) : Entry :=
  let entry := findings.foldl addFinding (ofKey (.ofObject object))
  { entry with valid := entry.valid && valid }

/-- A reference does not change whose entry it is. -/
@[simp] theorem key_addReference (entry : Entry) (key : ObjectKey) :
    (entry.addReference key).key = entry.key := by
  unfold addReference; split <;> rfl

/-- References do not change whose entry it is. -/
@[simp] theorem key_addReferences (entry : Entry) (keys : List ObjectKey) :
    (entry.addReferences keys).key = entry.key := by
  induction keys generalizing entry with
  | nil => rfl
  | cons key rest ih => exact (ih (entry.addReference key)).trans (key_addReference entry key)

/-- A merge keeps the key of the entry merged into. -/
@[simp] theorem key_merge (entry other : Entry) : (entry.merge other).key = entry.key := rfl

/-- An added reference is the new object, unless it is the entry's own, or an old one. -/
@[simp] theorem mem_addReference {entry : Entry} {key x : ObjectKey} :
    x ∈ (entry.addReference key).references ↔
      (x = key ∧ key ≠ entry.key) ∨ x ∈ entry.references := by
  unfold addReference
  split <;> simp_all

/-- A reference does not change the findings. -/
@[simp] theorem findings_addReference (entry : Entry) (key : ObjectKey) :
    (entry.addReference key).findings = entry.findings := by
  unfold addReference; split <;> rfl

/-- References do not change the findings. -/
@[simp] theorem findings_addReferences (entry : Entry) (keys : List ObjectKey) :
    (entry.addReferences keys).findings = entry.findings := by
  induction keys generalizing entry with
  | nil => rfl
  | cons key rest ih =>
    exact (ih (entry.addReference key)).trans (findings_addReference entry key)

/-- A reference does not change whether the entry is valid. -/
@[simp] theorem valid_addReference (entry : Entry) (key : ObjectKey) :
    (entry.addReference key).valid = entry.valid := by
  unfold addReference; split <;> rfl

/-- References do not change whether the entry is valid. -/
@[simp] theorem valid_addReferences (entry : Entry) (keys : List ObjectKey) :
    (entry.addReferences keys).valid = entry.valid := by
  induction keys generalizing entry with
  | nil => rfl
  | cons key rest ih => exact (ih (entry.addReference key)).trans (valid_addReference entry key)

/-- The added references are the new objects but the entry's own, beside the old ones. -/
@[simp] theorem mem_addReferences {entry : Entry} {keys : List ObjectKey} {x : ObjectKey} :
    x ∈ (entry.addReferences keys).references ↔
      (x ∈ keys ∧ x ≠ entry.key) ∨ x ∈ entry.references := by
  induction keys generalizing entry with
  | nil => simp [addReferences]
  | cons key rest ih =>
    have step : entry.addReferences (key :: rest) =
        (entry.addReference key).addReferences rest := rfl
    rw [step, ih, key_addReference, mem_addReference, List.mem_cons]
    constructor
    · rintro (⟨hx, hne⟩ | ⟨rfl, hne⟩ | hx)
      · exact .inl ⟨.inr hx, hne⟩
      · exact .inl ⟨.inl rfl, hne⟩
      · exact .inr hx
    · rintro (⟨rfl | hx, hne⟩ | hx)
      · exact .inr (.inl ⟨rfl, hne⟩)
      · exact .inl ⟨hx, hne⟩
      · exact .inr (.inr hx)

/-- Nothing is referred to before a reference is added. -/
@[simp] theorem not_mem_references_ofKey_addFinding (key x : ObjectKey) (finding : Finding) :
    ¬ x ∈ ((ofKey key).addFinding finding).references := SortedSet.not_mem_empty

/-- Findings follow one another and change neither key nor references; an entry is valid when it
was and none of them is an error. -/
theorem foldl_addFinding (entry : Entry) (added : List Finding) :
    added.foldl addFinding entry =
      { entry with
        valid := entry.valid && added.all fun finding => finding.severity != .error
        findings := entry.findings ++ added } := by
  induction added generalizing entry with
  | nil => simp
  | cons finding rest ih =>
    rw [List.foldl_cons, ih]
    simp [addFinding, Bool.and_assoc]

/-- The entry of an object has the key of the object. -/
@[simp] theorem key_ofObject (object : MeshObject) (findings : List Finding) (valid : Bool) :
    (ofObject object findings valid).key = .ofObject object := by
  rw [ofObject, foldl_addFinding]
  rfl

/-- The entry of an object has the findings of its checks. -/
@[simp] theorem findings_ofObject (object : MeshObject) (findings : List Finding) (valid : Bool) :
    (ofObject object findings valid).findings = findings := by
  rw [ofObject, foldl_addFinding]
  rfl

/-- The entry of an object refers to no other. -/
@[simp] theorem not_mem_references_ofObject (object : MeshObject) (findings : List Finding)
    (valid : Bool) (x : ObjectKey) : ¬ x ∈ (ofObject object findings valid).references := by
  rw [ofObject, foldl_addFinding]
  exact SortedSet.not_mem_empty

/-- The entry of an object is valid when its checks say so and none of their findings is an error. -/
@[simp] theorem valid_ofObject (object : MeshObject) (findings : List Finding) (valid : Bool) :
    (ofObject object findings valid).valid =
      ((findings.all fun finding => finding.severity != .error) && valid) := by
  rw [ofObject, foldl_addFinding]
  rfl

end Entry

end MeshAudit

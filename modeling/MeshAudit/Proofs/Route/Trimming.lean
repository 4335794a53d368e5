import MeshAudit.Proofs.Route.SharedHost

/-!
# Virtual services with idle items

The hosts and the gateways of a virtual service are lists of any values. A host that is no text or
leads nowhere says nothing, and neither does a gateway that is no text. Such an item may be deleted:
the other items have the same meaning wherever they stand in the list, so the virtual service makes
the same claims as before.
-/

namespace MeshAudit

/-! ### Putting a list into a body -/

namespace Value

/-- A field that was put into its place is found there. -/
@[simp] theorem lookup_insertField_self (name : String) (value : Value)
    (fields : List (String × Value)) :
    (insertField name value fields).lookup name = some value := by
  induction fields with
  | nil => simp [insertField]
  | cons field rest ih =>
    obtain ⟨label, old⟩ := field
    unfold insertField
    split
    · simp
    · simp
    next hgt =>
      have hne : (name == label) = false := by
        refine beq_eq_false_iff_ne.2 ?_
        rintro rfl
        simp at hgt
      rw [List.lookup_cons, hne]
      exact ih

/-- The other fields stay. -/
theorem lookup_insertField_of_ne {name other : String} (h : other ≠ name) (value : Value)
    (fields : List (String × Value)) :
    (insertField name value fields).lookup other = fields.lookup other := by
  have hne : (other == name) = false := beq_eq_false_iff_ne.2 h
  induction fields with
  | nil => simp [insertField, List.lookup_cons, hne]
  | cons field rest ih =>
    obtain ⟨label, old⟩ := field
    unfold insertField
    split
    · rw [List.lookup_cons, hne]
    next heq =>
      obtain rfl : name = label := by simpa using heq
      rw [List.lookup_cons, List.lookup_cons, hne]
    · rw [List.lookup_cons, List.lookup_cons, ih]

/-- An object with another value in one of its fields; anything else stays as it is. -/
def setField (v : Value) (name : String) (value : Value) : Value :=
  match v with
  | object fields => object (insertField name value fields)
  | v => v

/-- A field of an object is one step below it. -/
theorem child?_of_field? {name : String} {v found : Value} (h : v.field? name = some found) :
    v.child? name = some found := by
  cases v <;> simp_all [field?, child?]

/-- The new value is one step below. -/
theorem child?_setField_self {name : String} {v found value : Value}
    (h : v.field? name = some found) : (v.setField name value).child? name = some value := by
  cases v <;> simp_all [field?, setField, child?]

/-- The other children stay. -/
theorem child?_setField_of_ne {name other : String} (h : other ≠ name) (v value : Value) :
    (v.setField name value).child? other = v.child? other := by
  cases v <;> simp [setField, child?, lookup_insertField_of_ne h]

end Value

namespace MeshObject

/-- The object with another list in a field of its body. -/
def withItems (object : MeshObject) (field : String) (items : List Value) : MeshObject :=
  { object with spec := object.spec.setField field (.array items) }

variable {object : MeshObject} {field : String} {items found : List Value}

/-- The texts of a list in a field of the body. -/
theorem map_snd_bodyTexts (h : object.body? [field] = some (.array items)) :
    (object.bodyTexts [field]).map Prod.snd = items.filterMap Value.asString? := by
  have hitem : ∀ item : Value × Nat,
      (item.1.asString?.map fun s => (item.2, s)).map Prod.snd = item.1.asString? := by
    intro item
    cases item.1.asString? <;> rfl
  simp only [bodyTexts, h, textItems, List.map_filterMap, hitem]
  conv_rhs => rw [← List.zipIdx_map_fst 0 items, List.filterMap_map]
  rfl

/-- A list in a field of the body is read as it is. -/
theorem body?_of_field? (h : object.spec.field? field = some (.array items)) :
    object.body? [field] = some (.array items) := by
  simp [body?, Value.child?_of_field? h, Value.isNull]

/-- The new list is read in its field. -/
theorem body?_withItems_self (h : object.spec.field? field = some (.array found)) :
    (object.withItems field items).body? [field] = some (.array items) := by
  simp [body?, withItems, Value.child?_setField_self h, Value.isNull]

/-- The other fields are read as before. -/
theorem bodyTexts_withItems_of_ne {other : String} (h : other ≠ field) :
    (object.withItems field items).bodyTexts [other] = object.bodyTexts [other] := by
  simp [bodyTexts, body?, withItems, Value.child?_setField_of_ne h]

end MeshObject

/-! ### Deleting idle items -/

section

variable (settings : MeshSettings) (known : List String)

/-- An item that says nothing in a list of a virtual service. -/
inductive IdleItem (service : MeshObject) : String → Value → Prop
  /-- A host that is no text or leads nowhere. -/
  | host {item : Value} (nowhere : ∀ host, item.asString? = some host →
      resolveHost settings.identityDomain known service.ns
        (service.clusterOr settings.identityDomain) host = none) :
      IdleItem service "hosts" item
  /-- A gateway that is no text. -/
  | gateway {item : Value} (untyped : item.asString? = none) : IdleItem service "gateways" item

/-- A virtual service loses some of its idle items, one after another. -/
inductive Trims : MeshObject → MeshObject → Prop
  /-- It keeps all items. -/
  | refl (service : MeshObject) : Trims service service
  /-- An idle item is deleted, and then others. -/
  | delete {service trimmed : MeshObject} {field : String} (front : List Value) (item : Value)
      (rest : List Value) (found : service.spec.field? field = some (.array (front ++ item :: rest)))
      (idle : IdleItem settings known service field item)
      (others : Trims (service.withItems field (front ++ rest)) trimmed) : Trims service trimmed

end

variable {settings : MeshSettings} {known : List String} {service : MeshObject} {field : String}
  {front rest : List Value} {item : Value}

/-- An item that a reading skips may be deleted. -/
theorem filterMap_delete {α β : Type} {f : α → Option β} (front rest : List α) {item : α}
    (h : f item = none) :
    (front ++ rest).filterMap f = (front ++ item :: rest).filterMap f := by
  rw [List.filterMap_append, List.filterMap_append, List.filterMap_cons_none h]

/-- The hosts of a virtual service lead somewhere by their texts alone. -/
theorem resolvedHosts_eq (settings : MeshSettings) (known : List String) (service : MeshObject) :
    resolvedHosts settings known service =
      ((service.bodyTexts ["hosts"]).map Prod.snd).filterMap
        (resolveHost settings.identityDomain known service.ns
          (service.clusterOr settings.identityDomain)) := by
  rw [List.filterMap_map]
  rfl

/-- An idle item leaves the hosts as they are. -/
theorem resolvedHosts_withItems
    (found : service.spec.field? field = some (.array (front ++ item :: rest)))
    (idle : IdleItem settings known service field item) :
    resolvedHosts settings known (service.withItems field (front ++ rest)) =
      resolvedHosts settings known service := by
  rw [resolvedHosts_eq, resolvedHosts_eq]
  cases idle with
  | host nowhere =>
    have hitem : item.asString?.bind (resolveHost settings.identityDomain known service.ns
        (service.clusterOr settings.identityDomain)) = none := Option.bind_eq_none_iff.2 nowhere
    rw [MeshObject.map_snd_bodyTexts (MeshObject.body?_withItems_self found),
      MeshObject.map_snd_bodyTexts (MeshObject.body?_of_field? found), List.filterMap_filterMap,
      List.filterMap_filterMap]
    exact filterMap_delete front rest hitem
  | gateway _ =>
    rw [MeshObject.bodyTexts_withItems_of_ne (by decide)]
    rfl

/-- An idle item leaves the gateways as they are. -/
theorem effectiveGateways_withItems
    (found : service.spec.field? field = some (.array (front ++ item :: rest)))
    (idle : IdleItem settings known service field item) :
    effectiveGateways (service.withItems field (front ++ rest)) = effectiveGateways service := by
  rw [effectiveGateways_eq, effectiveGateways_eq]
  cases idle with
  | host _ => rw [MeshObject.bodyTexts_withItems_of_ne (by decide)]
  | gateway untyped =>
    rw [MeshObject.map_snd_bodyTexts (MeshObject.body?_withItems_self found),
      MeshObject.map_snd_bodyTexts (MeshObject.body?_of_field? found),
      filterMap_delete front rest untyped]

namespace Trims

variable {trimmed : MeshObject}

/-- A virtual service stays the object that it is. -/
theorem ofObject_eq (h : Trims settings known service trimmed) :
    ObjectKey.ofObject trimmed = .ofObject service := by
  induction h with
  | refl => rfl
  | delete _ _ _ _ _ _ ih => exact ih

/-- A virtual service without some of its idle items makes the claims that it made with them. -/
theorem hostClaims_eq (h : Trims settings known service trimmed) :
    hostClaims settings known trimmed = hostClaims settings known service := by
  induction h with
  | refl => rfl
  | delete _ _ _ found idle _ ih =>
    rw [ih, hostClaims, resolvedHosts_withItems found idle, effectiveGateways_withItems found idle]
    rfl

end Trims

end MeshAudit

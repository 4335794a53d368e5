import MeshAudit.Document.Value

/-!
# Records

A record has a fixed list of fields. It is read from an object by the names of its fields, where
other names are ignored, or from a list by their positions, where fields at the end may be missing.
-/

namespace MeshAudit

/-- The named fields among others in the order of their names, absent ones as `none`, where none of
them may occur twice. -/
def uniqueFields? {α : Type} (names : List String) (fields : List (String × α)) :
    Option (List (Option α)) :=
  names.mapM fun name =>
    match fields.filter fun field => field.1 = name with
    | [] => some none
    | [field] => some (some field.2)
    | _ => none

namespace Value

/-- The fields of a record in the order of their names, absent ones as `none`. A list with more
items than the record has fields is no record, nor is anything but a list or an object. -/
def record? (names : List String) : Value → Option (List (Option Value))
  | object fields => some (names.map fun name => fields.lookup name)
  | array items =>
    if names.length < items.length then none
    else some ((List.range names.length).map fun i => items[i]?)
  | _ => none

/-- A text field: absent it has its default, present it must be a text. -/
def textField? (default : String) : Option Value → Option String
  | none => some default
  | some v => v.asString?

/-- A truth field: absent it has its default, present it must be a truth value. -/
def boolField? (default : Bool) : Option Value → Option Bool
  | none => some default
  | some v => v.asBool?

/-- A text field that may be left out or hold nothing. -/
def optionalTextField? : Option Value → Option (Option String)
  | none => some none
  | some null => some none
  | some v => v.asString?.map some

end Value

end MeshAudit

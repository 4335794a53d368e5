import MeshAudit.Number.Binary64

/-!
# Document values

The body of a configuration object is free-form: a tree of texts, numbers, truth values, lists and
named fields. Fields are kept in the order of their names, and of two fields with one name the
later one counts, so a body has one form whatever order it was written in.
-/

namespace MeshAudit

/-- A number of a document, whole or with a fractional part. -/
inductive Number where
  /-- A whole number. -/
  | integer (value : Int)
  /-- A double-precision number. -/
  | float (value : Binary64)
  deriving DecidableEq, Repr

/-- A node of a document. -/
inductive Value where
  /-- Nothing. -/
  | null
  /-- A truth value. -/
  | bool (value : Bool)
  /-- A number. -/
  | number (value : Number)
  /-- A text. -/
  | string (value : String)
  /-- A list of nodes. -/
  | array (items : List Value)
  /-- Named fields in the order of their names. -/
  | object (fields : List (String × Value))
  deriving Repr

namespace Value

instance : Inhabited Value := ⟨null⟩

/-- Put a field in its place by name, over an earlier field of the same name. -/
def insertField (name : String) (value : Value) : List (String × Value) → List (String × Value)
  | [] => [(name, value)]
  | field :: rest =>
    match compare name field.1 with
    | .lt => (name, value) :: field :: rest
    | .eq => (name, value) :: rest
    | .gt => field :: insertField name value rest

/-- The object with the given fields, where the last field of a name counts. -/
def ofFields (fields : List (String × Value)) : Value :=
  object (fields.foldl (fun kept field => insertField field.1 field.2 kept) [])

/-- A whole number. -/
def integer (n : Int) : Value := number (.integer n)

/-- Whether the node holds nothing. -/
def isNull : Value → Bool
  | null => true
  | _ => false

/-- The text of a text node. -/
def asString? : Value → Option String
  | string s => some s
  | _ => none

/-- The truth value of a truth node. -/
def asBool? : Value → Option Bool
  | bool b => some b
  | _ => none

/-- The items of a list. -/
def asArray? : Value → Option (List Value)
  | array items => some items
  | _ => none

/-- The fields of an object. -/
def asObject? : Value → Option (List (String × Value))
  | object fields => some fields
  | _ => none

/-- A field of an object by its name. -/
def field? (name : String) : Value → Option Value
  | object fields => fields.lookup name
  | _ => none

end Value

end MeshAudit

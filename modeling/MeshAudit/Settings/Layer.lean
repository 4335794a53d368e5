import MeshAudit.Document.Value
import MeshAudit.Number.Reading
import MeshAudit.Settings.Environment
import MeshAudit.Text.Lowercase

/-!
# Layers of settings

Settings are gathered in layers, and a later layer counts more than an earlier one. A layer lists
values under keys. A key may be a path into the settings, and a group of values is merged into what
is there instead of replacing it.
-/

namespace MeshAudit

/-- A step into a value. -/
inductive PathStep where
  /-- To a field of a group. -/
  | field (name : String)
  /-- To an item of a list, counted from the end if negative. -/
  | item (position : Int)
  deriving DecidableEq, Repr

/-- Values under keys. -/
abbrev Layer := List (String × Value)

namespace Layer

/-- Characters of a name in a path. -/
def isNameChar (c : Char) : Bool := c.isAlphanum || c = '_' || c = '-'

/-- Read a position up to its closing bracket. -/
def readPosition? (cs : List Char) : Option (Int × List Char) :=
  let (negative, cs) := match cs with
    | '-' :: rest => (true, rest)
    | rest => (false, rest)
  match cs.span Char.isDigit with
  | (digits, ']' :: rest) =>
    (Text.readDigits? 10 digits).map fun n => (if negative then -(n : Int) else n, rest)
  | _ => none

/-- Read the steps that follow a name, at most as many as the first argument. -/
def readSteps? : Nat → List Char → Option (List PathStep)
  | _, [] => some []
  | 0, _ => none
  | count + 1, '.' :: rest =>
    let (name, rest) := rest.span isNameChar
    if name.isEmpty then none
    else (readSteps? count rest).map fun steps => .field (String.ofList name) :: steps
  | count + 1, '[' :: rest => do
    let (position, rest) ← readPosition? rest
    (readSteps? count rest).map fun steps => .item position :: steps
  | _, _ => none

/-- The path that a key stands for. A key that is no path stands for a field of its name. -/
def pathOf (key : String) : List PathStep :=
  let cs := key.toList
  let path := if cs.head?.any isNameChar then readSteps? cs.length ('.' :: cs) else none
  path.getD [.field key]

/-- Change the item of a list at a position. The list is made long enough for it, at its start for a
negative position. -/
def changeItem (change : Value → Value) (position : Int) (items : List Value) : List Value :=
  if 0 ≤ position then
    let n := position.toNat
    let items := items ++ List.replicate (n + 1 - items.length) .null
    items.modify n change
  else
    let back := position.natAbs
    let items := List.replicate (back - items.length) .null ++ items
    items.modify (items.length - back) change

/-- Change the value at the end of a path. What is in the way is replaced by groups and lists. -/
def changeAt (change : Value → Value) : List PathStep → Value → Value
  | [], value => change value
  | .field name :: path, value =>
    let fields := value.asObject?.getD []
    .object (Value.insertField name
      (changeAt change path ((fields.lookup name).getD .null)) fields)
  | .item position :: path, value =>
    .array (changeItem (changeAt change path) position (value.asArray?.getD []))

mutual

/-- Put a value over another. A group is merged, and anything else replaces what was there. -/
def overlay : Value → Value → Value
  | .object fields, base => .object (overlayFields fields (base.asObject?.getD []))
  | value, _ => value

/-- Put fields over others. -/
def overlayFields : List (String × Value) → List (String × Value) → List (String × Value)
  | [], base => base
  | (name, value) :: rest, base =>
    overlayFields rest
      (Value.insertField name (overlay value ((base.lookup name).getD .null)) base)

end

/-- Put a layer over the settings gathered so far. -/
def onto (layer : Layer) (base : Value) : Value :=
  layer.foldl (fun value entry => changeAt (overlay entry.2) (pathOf entry.1) value) base

/-- What a variable holds: a truth value or a number where it reads as one, else a text. -/
def variableValue (text : String) : Value :=
  let word := Text.lowercase text
  if word = "true" then .bool true
  else if word = "false" then .bool false
  else
    match Text.readInt64? text.toList with
    | some n => .integer n
    | none =>
      match Binary64.read? text.toList with
      | some x => .number (.float x)
      | none => .string text

/-- Start of the names of variables that hold settings, in lower case. -/
def variableStart : String := "meshlint__"

/-- The layer of the environment. The rest of a variable's name is a key in lower case, in which two
low lines stand for a point. -/
def ofEnvironment (environment : Environment) : Layer :=
  environment.filterMap fun (name, text) =>
    let name := Text.lowercase name
    if name.startsWith variableStart then
      let key := String.ofList (name.toList.drop variableStart.length)
      some (key.replace "__" ".", variableValue text)
    else none

end Layer

end MeshAudit

import MeshAudit.Settings.Layer
import MeshAudit.Yaml.Datum

/-!
# Layers from YAML

A layer in YAML is one document with a mapping. Fewer words than elsewhere stand for truth values
and for nothing, and a number written in a field of a text is a text again when it is read.
-/

namespace MeshAudit

namespace Layer

/-- What a scalar of a layer stands for. -/
inductive Scalar where
  /-- Nothing. -/
  | null
  /-- A truth value. -/
  | bool (value : Bool)
  /-- A whole number. -/
  | integer (value : Int)
  /-- A number with a fractional part as it is written. -/
  | real (text : String)
  /-- A text. -/
  | string (text : String)
  /-- What does not fit its tag. -/
  | misfit
  deriving DecidableEq, Repr

namespace Scalar

/-- Whole number in a base, with a sign, in the signed 64-bit range. -/
def inBase? (base : Nat) (cs : List Char) : Option Int :=
  (Text.readSigned? base cs).filter Text.fitsInt64

/-- Whole number with a mark of its base or with a sign in front. -/
def marked? : List Char → Option Int
  | '0' :: 'x' :: rest => inBase? 16 rest
  | '0' :: 'o' :: rest => inBase? 8 rest
  | '+' :: rest => inBase? 10 rest
  | _ => none

/-- Words for numbers that are not finite. -/
def wordsBeyondNumbers : List String :=
  [".inf", ".Inf", ".INF", "+.inf", "+.Inf", "+.INF", "-.inf", "-.Inf", "-.INF", ".nan", "NaN",
    ".NAN"]

/-- Whether a text is written like a number with a fractional part. -/
def isReal (text : String) : Bool :=
  wordsBeyondNumbers.contains text ||
    (text.toList.any Char.isDigit && (Binary64.read? text.toList).isSome)

/-- The truth value of a word. -/
def boolOf? (text : String) : Option Bool :=
  if text = "true" then some true else if text = "false" then some false else none

/-- What a scalar without quotes stands for. -/
def ofPlain (text : String) : Scalar :=
  match (marked? text.toList).or (Text.readInt64? text.toList) with
  | some n => integer n
  | none =>
    if text = "" ∨ text = "~" ∨ text = "null" then null
    else
      match boolOf? text with
      | some b => bool b
      | none => if isReal text then real text else string text

/-- What a scalar without quotes and with a tag stands for. -/
def ofTagged (tag text : String) : Scalar :=
  if tag = "tag:yaml.org,2002:bool" then ((boolOf? text).map bool).getD misfit
  else if tag = "tag:yaml.org,2002:int" then
    ((Text.readInt64? text.toList).map integer).getD misfit
  else if tag = "tag:yaml.org,2002:float" then if isReal text then real text else misfit
  else if tag = "tag:yaml.org,2002:null" then
    if text = "~" ∨ text = "null" then null else misfit
  else string text

/-- What a scalar stands for. -/
def ofNode (tag : Option String) (form : Yaml.ScalarForm) (text : String) : Scalar :=
  if form = .plain then
    match tag with
    | some tag => ofTagged tag text
    | none => ofPlain text
  else string text

/-- The value of a scalar. Of the words for numbers that are not finite only one can be read. -/
def value? : Scalar → Option Value
  | null => some .null
  | bool b => some (.bool b)
  | integer n => some (.integer n)
  | real text => (Binary64.read? text.toList).map fun x => .number (.float x)
  | string text => some (.string text)
  | misfit => some .null

/-- The name of a field with a scalar for its key. -/
def name? : Scalar → Option String
  | bool b => some (if b then "true" else "false")
  | integer n => some (toString n)
  | real text => some text
  | string text => some text
  | _ => none

end Scalar

end Layer

namespace Yaml.Document

/-- The scalar at a key. -/
def keyScalar? (document : Document) (node : Node) : Option Layer.Scalar :=
  match document.resolve? node with
  | some (.scalar tag form text) => some (.ofNode tag form text)
  | _ => none

/-- The value of a node for a layer, with so many collections inside of each other. No two keys of a
mapping are the same. -/
def layerValue (document : Document) : Nat → Node → StateT Nat Option Value
  | depth, node => do
    match ← document.follow node with
    | .scalar tag form text => (Layer.Scalar.ofNode tag form text).value?
    | .sequence _ items =>
      match depth with
      | 0 => failure
      | depth + 1 => .array <$> items.mapM (document.layerValue depth)
    | .mapping _ fields =>
      match depth with
      | 0 => failure
      | depth + 1 =>
        let keys ← fields.mapM fun field => document.keyScalar? field.1
        if keys.Nodup then
          let names ← keys.mapM fun key => key.name?
          let values ← fields.mapM fun field => document.layerValue depth field.2
          return .ofFields (names.zip values)
        else failure
    | .reference _ => failure

end Yaml.Document

/-- The layer of a YAML text, which is empty if the text has no document. -/
def Layer.ofYaml? (text : String) : Option Layer := do
  match Yaml.documentsOf (Yaml.tokens text) with
  | [] => some []
  | [some document] =>
    let depth := document.root.size
    (← (document.layerValue depth document.root).run' document.maxReferences).asObject?
  | _ => none

end MeshAudit

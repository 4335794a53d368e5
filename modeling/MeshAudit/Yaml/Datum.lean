import MeshAudit.Document.Value
import MeshAudit.Yaml.Building
import MeshAudit.Yaml.Scalar
import MeshAudit.Yaml.Tokens

/-!
# YAML data

What the nodes of a document stand for: scalars without quotes become numbers, truth values or
nothing where they look like it, references are replaced by what they refer to, and tags of the
document's own stay with their content. No mapping has one key twice.
-/

namespace MeshAudit.Yaml

/-- A piece of data. -/
inductive Datum where
  /-- Nothing. -/
  | null
  /-- A truth value. -/
  | bool (value : Bool)
  /-- A number. -/
  | number (value : Number)
  /-- A text. -/
  | string (value : String)
  /-- A sequence. -/
  | sequence (items : List Datum)
  /-- A mapping, whose keys need not be texts. -/
  | mapping (fields : List (Datum × Datum))
  /-- A piece of data with a tag. -/
  | tagged (tag : String) (content : Datum)
  deriving Repr

namespace Datum

instance : Inhabited Datum := ⟨null⟩

/-- Whether two numbers are the same key. Whole numbers differ from others. -/
def sameNumber : Number → Number → Bool
  | .integer m, .integer n => m = n
  | .float x, .float y => x.sameValue y
  | _, _ => false

mutual

/-- Whether two pieces of data are the same key. The order of a mapping does not count. -/
def same : Datum → Datum → Bool
  | null, null => true
  | bool a, bool b => a = b
  | number m, number n => sameNumber m n
  | string s, string t => s = t
  | sequence items, sequence others => sameItems items others
  | mapping fields, mapping others =>
    fields.length = others.length && fieldsWithin fields others
  | tagged tag content, tagged other content' => tag = other && same content content'
  | _, _ => false

/-- Whether two sequences are the same item by item. -/
def sameItems : List Datum → List Datum → Bool
  | [], [] => true
  | item :: rest, other :: others => same item other && sameItems rest others
  | _, _ => false

/-- Whether all fields occur among others. -/
def fieldsWithin : List (Datum × Datum) → List (Datum × Datum) → Bool
  | [], _ => true
  | (key, value) :: rest, others =>
    others.any (fun other => same key other.1 && same value other.2) && fieldsWithin rest others

end

/-- Only a text without tags is the same key as a text. -/
theorem same_string {key : Datum} {s : String} :
    key.same (string s) = true ↔ key = string s := by
  cases key <;> simp [same]

/-- The content without its tags. -/
def untagged : Datum → Datum
  | tagged _ content => content.untagged
  | datum => datum

/-- The text of a text, which may be tagged. -/
def asString? (datum : Datum) : Option String :=
  match datum.untagged with
  | string s => some s
  | _ => none

/-- A piece of data is a text when it is one under its tags. -/
theorem asString?_eq_some_iff {datum : Datum} {s : String} :
    datum.asString? = some s ↔ datum.untagged = string s := by
  unfold asString?
  cases datum.untagged <;> simp

/-- What a plain scalar stands for; no number is wider than sixty-four bits. -/
def ofPlain? (text : String) : Option Datum :=
  match resolvePlain text with
  | .null => some null
  | .bool b => some (bool b)
  | .integer n => some (number (.integer n))
  | .wide _ => none
  | .float x => some (number (.float x))
  | .text => some (string text)

/-- What a scalar stands for by its form. -/
def ofForm? (form : ScalarForm) (text : String) : Option Datum :=
  if form = .plain then ofPlain? text else some (string text)

/-- The whole number of a text that is tagged as one. -/
def integerOf? (text : String) : Option Datum := do
  match ← sizedInteger? (← readInteger? text.toList) with
  | .integer n => some (number (.integer n))
  | _ => none

/-- What a scalar with a tag of the language stands for. -/
def ofCoreTag? (tag text : String) : Option Datum :=
  if tag = "tag:yaml.org,2002:bool" then (boolOfWord? text).map bool
  else if tag = "tag:yaml.org,2002:int" then integerOf? text
  else if tag = "tag:yaml.org,2002:float" then
    (readFloat? text).map fun x => number (.float x)
  else if tag = "tag:yaml.org,2002:null" then if isNullWord text then some null else none
  else some (string text)

/-- The name of a tag of the document's own. -/
def ownTag? (tag : Option String) : Option String :=
  match tag.map String.toList with
  | some ['!'] => some "!"
  | some ('!' :: name) => some (String.ofList name)
  | _ => none

/-- The content with a tag of the document's own, unless that has been read. -/
def withTag (content : Datum) (tagRead : Bool) (tag : Option String) : Datum :=
  match ownTag? tag with
  | some name => if tagRead then content else tagged name content
  | none => content

/-- What a scalar stands for, apart from a tag of the document's own. -/
def ofScalar? (tag : Option String) (form : ScalarForm) (text : String) : Option Datum :=
  match tag with
  | none => ofForm? form text
  | some tag => ofCoreTag? tag text

/-- The mapping of fields, unless two have the same key. -/
def ofFields? (fields : List (Datum × Datum)) : Option Datum :=
  if fields.Pairwise (fun a b => a.1.same b.1 = false) then some (mapping fields) else none

end Datum

namespace Document

/-- How many references may be followed in reading a document. -/
def maxReferences (document : Document) : Nat := 100 * document.root.size

/-- Greatest number of collections around each other. -/
def maxDepth : Nat := 128

/-- Follow a reference, at the expense of those that may still be followed. -/
def follow (document : Document) (node : Node) : StateT Nat Option Node := do
  match node with
  | .reference number =>
    match ← get with
    | 0 => failure
    | left + 1 =>
      set left
      document.anchored? number
  | node => return node

/-- Read a node with so many collections inside of each other, without its own tag if that has been
read. A key does not read its tag where the mapping has read one. -/
def readNode (document : Document) : Nat → Bool → Node → StateT Nat Option Datum
  | depth, tagRead, node => do
    let tagRead : Bool := match node with
      | .reference _ => false
      | _ => tagRead
    match ← document.follow node with
    | .scalar tag form text =>
      if tagRead || (Datum.ownTag? tag).isSome then
        return (← Datum.ofForm? form text).withTag tagRead tag
      else Datum.ofScalar? tag form text
    | .sequence tag items =>
      match depth with
      | 0 => failure
      | depth + 1 =>
        let items ← items.mapM (document.readNode depth false)
        return (Datum.sequence items).withTag tagRead tag
    | .mapping tag fields =>
      match depth with
      | 0 => failure
      | depth + 1 =>
        let tagged := tagRead || (Datum.ownTag? tag).isSome
        let fields ← fields.mapM fun field => do
          let key ← document.readNode depth tagged field.1
          return (key, ← document.readNode depth false field.2)
        return (← Datum.ofFields? fields).withTag tagRead tag
    | .reference _ => failure

/-- The data of a document. -/
def datum? (document : Document) : Option Datum :=
  (document.readNode maxDepth false document.root).run' document.maxReferences

end Document

/-- The data of the documents of a text, where a document that cannot be read has none. -/
def readAll (text : String) : List (Option Datum) :=
  (documentsOf (tokens text)).map fun document => document.bind Document.datum?

end MeshAudit.Yaml

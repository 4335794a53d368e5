import MeshAudit.Yaml.Token

/-!
# YAML nodes

A document is a tree of scalars, sequences and mappings. A node may be a reference to another one
by number, so that a document may also refer to itself.
-/

namespace MeshAudit.Yaml

/-- A node of a document. -/
inductive Node where
  /-- A scalar. -/
  | scalar (tag : Option String) (form : ScalarForm) (text : String)
  /-- A sequence of items. -/
  | sequence (tag : Option String) (items : List Node)
  /-- A mapping of keys to values, in the order in which they are written. -/
  | mapping (tag : Option String) (fields : List (Node × Node))
  /-- The anchored node with a number. -/
  | reference (number : Nat)

namespace Node

instance : Inhabited Node := ⟨reference 0⟩

/-- A place where a node is left out. -/
def empty : Node := scalar none .plain ""

mutual

/-- Number of nodes and of ends of collections. -/
def size : Node → Nat
  | scalar _ _ _ => 1
  | sequence _ items => 2 + itemsSize items
  | mapping _ fields => 2 + fieldsSize fields
  | reference _ => 1

/-- Size of all items together. -/
def itemsSize : List Node → Nat
  | [] => 0
  | item :: rest => item.size + itemsSize rest

/-- Size of all fields together. -/
def fieldsSize : List (Node × Node) → Nat
  | [] => 0
  | (key, value) :: rest => key.size + value.size + fieldsSize rest

end

end Node

/-- A document. -/
structure Document where
  /-- The node that holds all others. -/
  root : Node
  /-- Where the nodes with a number start, the latest first. -/
  numbered : List (Nat × Nat) := []
  /-- The anchored nodes by where they start. -/
  anchored : List (Nat × Node) := []

namespace Document

/-- The anchored node with a number. If several have it, the last counts. -/
def anchored? (document : Document) (number : Nat) : Option Node := do
  document.anchored.lookup (← document.numbered.lookup number)

/-- The node itself, or the one that it refers to. -/
def resolve? (document : Document) : Node → Option Node
  | .reference number => document.anchored? number
  | node => some node

end Document

end MeshAudit.Yaml

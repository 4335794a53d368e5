import MeshAudit.Document.Value

/-!
# Pointers into documents

A pointer names a node by the steps that lead to it from the root: the name of a field, or the
position of a list item. Its text starts every step with a slash; inside a step `~1` stands for a
slash and `~0` for a tilde. The empty text is the root.
-/

namespace MeshAudit.Value

/-- The position that a step names in a list: decimal digits without a superfluous zero. -/
def readIndex? (step : String) : Option Nat :=
  let digits := step.toList
  if digits.head? = some '0' ∧ digits.length ≠ 1 then none else Text.readDigits? 10 digits

/-- The node one step below another. -/
def child? (v : Value) (step : String) : Option Value :=
  match v with
  | object fields => fields.lookup step
  | array items => (readIndex? step).bind fun i => items[i]?
  | _ => none

/-- The node at the end of a list of steps. -/
def follow? (v : Value) (steps : List String) : Option Value :=
  steps.foldlM child? v

/-- A single step leads to a child. -/
@[simp] theorem follow?_singleton (v : Value) (step : String) :
    v.follow? [step] = v.child? step := by
  simp [follow?]

/-- A step of a pointer with its two escapes resolved. -/
def unescapeStep : List Char → List Char
  | '~' :: '1' :: rest => '/' :: unescapeStep rest
  | '~' :: '0' :: rest => '~' :: unescapeStep rest
  | c :: rest => c :: unescapeStep rest
  | [] => []

/-- The steps of a pointer text; a text that is neither empty nor starts with a slash is none. -/
def pointerSteps? (pointer : String) : Option (List String) :=
  match pointer.toList with
  | [] => some []
  | '/' :: rest => some ((rest.splitOn '/').map fun step => String.ofList (unescapeStep step))
  | _ => none

/-- The node that a pointer text names. -/
def pointer? (v : Value) (pointer : String) : Option Value :=
  (pointerSteps? pointer).bind v.follow?

end MeshAudit.Value

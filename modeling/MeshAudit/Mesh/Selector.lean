import MeshAudit.Document.Value

/-!
# Workload selectors

A gateway is served by the workloads that its selector picks. Gateways are compared by one text
per selector: its labels as `name=value`, in the order of their names, with commas between them.
A selector that is absent, is no object or has a value that is no text picks the common group,
whose text is empty.
-/

namespace MeshAudit

/-- The labels of a selector whose values are all texts. -/
def labels? (selector : Value) : Option (List (String × String)) :=
  selector.asObject?.bind fun fields =>
    fields.mapM fun field => field.2.asString?.map fun value => (field.1, value)

/-- One label as text. -/
def labelText (label : String × String) : String := label.1 ++ "=" ++ label.2

/-- The text that stands for a selector. -/
def canonicalSelector (selector : Option Value) : String :=
  match selector.bind labels? with
  | some labels => String.intercalate "," (labels.map labelText)
  | none => ""

end MeshAudit

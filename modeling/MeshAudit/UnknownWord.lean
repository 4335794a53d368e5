/-!
# Words outside a vocabulary

Kinds, severities and output formats are named by words. A word that names none of them is an
error of its own, whose text repeats the word as it was given.
-/

namespace MeshAudit

/-- A word that is not in the vocabulary it was looked up in. -/
inductive UnknownWord where
  /-- Not the name of an object kind. -/
  | kind (word : String)
  /-- Not the name of a severity. -/
  | severity (word : String)
  /-- Not the name of an output format. -/
  | format (word : String)
  deriving DecidableEq, Repr

/-- The error text. -/
def UnknownWord.message : UnknownWord → String
  | kind word => s!"Unsupported object kind: {word}"
  | severity word => s!"Unknown severity '{word}'. Use 'error' or 'warning'."
  | format word => s!"Unsupported output format: '{word}'. Use 'json' or 'yaml'."

end MeshAudit

/-!
# Failures

Analysing a mesh never fails; reading its settings and its objects can. A failure has a kind, which
decides the exit code of the program, and a message, in front of which callers put what they were
doing.
-/

namespace MeshAudit

/-- What went wrong. -/
inductive FailureKind where
  /-- Settings cannot be loaded. -/
  | config
  /-- A file cannot be read. -/
  | io
  /-- A JSON document has the wrong shape. -/
  | serialization
  /-- A YAML document cannot be read. -/
  | yaml
  /-- Settings break a rule; the field is known when there is only one. -/
  | validation (field : Option String)
  /-- A document of a snapshot is no object. -/
  | snapshot (document : Option Nat)
  deriving DecidableEq, Repr

/-- A failure to read settings or objects. -/
structure Failure where
  /-- What went wrong. -/
  kind : FailureKind
  /-- Where and how it went wrong. -/
  message : String
  deriving DecidableEq, Repr

namespace Failure

/-- Title of the kind in the error text. -/
def title : FailureKind → String
  | .config => "Configuration error"
  | .io => "I/O error"
  | .serialization => "Serialization error"
  | .yaml => "YAML error"
  | .validation _ => "Validation error"
  | .snapshot _ => "Invalid snapshot"

/-- The error text. -/
def text (failure : Failure) : String := title failure.kind ++ ": " ++ failure.message

/-- Exit code of the program after a failure: settings, files and content have one each. -/
def exitCode (failure : Failure) : Nat :=
  match failure.kind with
  | .config => 78
  | .validation _ => 78
  | .io => 74
  | .serialization => 65
  | .yaml => 65
  | .snapshot _ => 65

/-- The failure with what was being done put in front of its message. -/
def inContext (failure : Failure) (context : String) : Failure :=
  { failure with message := context ++ ": " ++ failure.message }

/-- A file cannot be read. -/
def unreadable : Failure := ⟨.io, "I/O operation failed"⟩

/-- A JSON document has the wrong shape. -/
def badJson : Failure := ⟨.serialization, "JSON serialization failed"⟩

/-- A YAML document cannot be read. -/
def badYaml : Failure := ⟨.yaml, "YAML parsing failed"⟩

/-- The layers of the settings cannot be loaded. -/
def badLayers : Failure := ⟨.config, "Configuration loading failed"⟩

end Failure

end MeshAudit

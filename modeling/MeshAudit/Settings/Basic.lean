/-!
# Settings

What an analysis has to know about the mesh beside its objects, and how the program reports on its
own work.
-/

namespace MeshAudit

/-- What the analysis has to know about the mesh. -/
structure MeshSettings where
  /-- Suffix of the full name of every service of the mesh. -/
  identityDomain : String := "svc.cluster.local"
  /-- Namespace whose policies apply to the whole mesh. -/
  rootNamespace : String := "istio-system"
  /-- Whether the mesh negotiates mTLS where no destination rule decides. -/
  autoMtls : Bool := true
  /-- Whether a permissive policy counts as mTLS being on. -/
  allowPermissive : Bool := false
  deriving DecidableEq, Repr

/-- How the program reports on its own work. -/
structure LogSettings where
  /-- Least importance of the messages that are logged. -/
  level : String := "info"
  /-- Whether messages are logged as JSON. -/
  json : Bool := false
  deriving DecidableEq, Repr

/-- All settings of the program. -/
structure Settings where
  /-- About the mesh. -/
  mesh : MeshSettings := {}
  /-- About logging. -/
  log : LogSettings := {}
  deriving DecidableEq, Repr

/-- Host by which a destination rule addresses every service of the mesh. -/
def meshWideHost : String := "*.local"

/-- Host by which a destination rule addresses every service of a namespace. -/
def MeshSettings.namespaceWideHost (settings : MeshSettings) (ns : String) : String :=
  "*." ++ ns ++ "." ++ settings.identityDomain

/-- Different namespaces have different hosts. -/
theorem MeshSettings.namespaceWideHost_inj {settings : MeshSettings} {ns other : String} :
    settings.namespaceWideHost ns = settings.namespaceWideHost other ↔ ns = other := by
  simp [namespaceWideHost]

end MeshAudit

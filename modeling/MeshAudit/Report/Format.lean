import MeshAudit.Report.Json
import MeshAudit.Report.Yaml
import MeshAudit.Text.Lowercase

/-!
# Output formats

A report is printed in one of two formats.
-/

namespace MeshAudit

/-- The formats of printed reports. -/
inductive ReportFormat where
  /-- JSON on indented lines. -/
  | json
  /-- YAML in block style. -/
  | yaml
  deriving DecidableEq, Repr

/-- The format with a name in any case. -/
def ReportFormat.ofWord (word : String) : Except UnknownWord ReportFormat :=
  if Text.lowercase word = "json" then .ok .json
  else if Text.lowercase word = "yaml" then .ok .yaml
  else .error (.format word)

/-- A report in a format. -/
def ReportTree.render (report : ReportTree) : ReportFormat → String
  | .json => report.toJson 0
  | .yaml => report.toYaml

end MeshAudit

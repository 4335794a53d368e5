import MeshAudit.Analysis

/-!
# Report trees

A report is a tree of texts, truth values, lists and records. Unlike the fields of a document, the
fields of a record keep the order in which the report presents them.
-/

namespace MeshAudit

/-- A part of a report. -/
inductive ReportTree where
  /-- Nothing. -/
  | nothing
  /-- A truth value. -/
  | flag (value : Bool)
  /-- A text. -/
  | text (value : String)
  /-- A list. -/
  | list (items : List ReportTree)
  /-- Named parts in the order of presentation. -/
  | record (fields : List (String × ReportTree))
  deriving Repr

/-- The parts of a key in a report. -/
def ObjectKey.reportFields (key : ObjectKey) : List (String × ReportTree) :=
  [("objectType", .text key.kind.label), ("namespace", .text key.ns), ("name", .text key.name)]

/-- A finding in a report. -/
def Finding.report (finding : Finding) : ReportTree :=
  .record [("message", .text finding.check.code), ("path", .text finding.path),
    ("severity", .text finding.severity.label)]

/-- An entry in a report. -/
def Entry.report (entry : Entry) : ReportTree :=
  .record (entry.key.reportFields ++
    [("valid", .flag entry.valid), ("checks", .list (entry.findings.map Finding.report)),
      ("references",
        .list (entry.references.toList.map fun key => .record key.reportFields))])

/-- A graph in a report. -/
def Graph.report (graph : Graph) : ReportTree := .list (graph.entries.map Entry.report)

/-- The status of a scope in a report. -/
def ScopeStatus.report (scope : ScopeStatus) : ReportTree :=
  .record [("destinationRuleMode", .text scope.rule.word),
    ("peerAuthenticationMode", .text scope.policy.word),
    ("status", match scope.status with
      | some status => .text status.label
      | none => .nothing)]

/-- The mTLS state of a namespace in a report. -/
def MtlsReport.report (report : MtlsReport) : ReportTree :=
  .record [("namespace", .text report.ns), ("namespaceStatus", report.own.report),
    ("meshStatus", report.mesh.report), ("overallStatus", .text report.overall.label)]

end MeshAudit

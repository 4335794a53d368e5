import MeshAudit.Yaml.Text
import MeshAudit.Report.Tree

/-!
# Reports in YAML

Every field stands on a line of its own. The items of a list start with a dash, in the column of
the field that holds the list; the fields of a record are indented by two blanks.
-/

namespace MeshAudit.ReportTree

mutual

/-- A part of a report after the dash of an item, whose own lines start at a column. -/
def itemToYaml (column : Nat) : ReportTree → List Char
  | .nothing => "null\n".toList
  | .flag value => (if value then "true\n" else "false\n").toList
  | .text value => Yaml.writeText column value
  | .list [] => "[]\n".toList
  | .list (item :: rest) => '-' :: ' ' :: item.itemToYaml (column + 2) ++ itemsToYaml column rest
  | .record [] => "\x7b\x7d\n".toList
  | .record ((name, part) :: rest) =>
    name.toList ++ ':' :: part.fieldToYaml column ++ fieldsToYaml column rest

/-- A part of a report after the name of a field that starts at a column. -/
def fieldToYaml (column : Nat) : ReportTree → List Char
  | .nothing => " null\n".toList
  | .flag value => (if value then " true\n" else " false\n").toList
  | .text value => ' ' :: Yaml.writeText (column + 2) value
  | .list [] => " []\n".toList
  | .list (item :: rest) => '\n' :: itemsToYaml column (item :: rest)
  | .record [] => " \x7b\x7d\n".toList
  | .record (field :: rest) => '\n' :: fieldsToYaml (column + 2) (field :: rest)

/-- The items of a list at a column. -/
def itemsToYaml (column : Nat) : List ReportTree → List Char
  | [] => []
  | item :: rest =>
    Yaml.indentation column ++ '-' :: ' ' :: item.itemToYaml (column + 2) ++ itemsToYaml column rest

/-- The fields of a record at a column. -/
def fieldsToYaml (column : Nat) : List (String × ReportTree) → List Char
  | [] => []
  | (name, part) :: rest =>
    Yaml.indentation column ++ name.toList ++ ':' :: part.fieldToYaml column ++
      fieldsToYaml column rest

end

/-- A report as a YAML document. -/
def toYaml (report : ReportTree) : String := String.ofList (report.itemToYaml 0)

end MeshAudit.ReportTree

import MeshAudit.Json.Text
import MeshAudit.Report.Tree

/-!
# Reports in JSON

Every part of a report stands on a line of its own, indented by two blanks for each level.
-/

namespace MeshAudit.ReportTree

/-- A new line at a level. -/
def jsonLine (level : Nat) : String := "\n" ++ String.ofList (List.replicate (2 * level) ' ')

/-- Parts between two brackets, each on a line of its own. -/
def jsonBlock (openBracket closeBracket : String) (level : Nat) (parts : List String) : String :=
  if parts.isEmpty then openBracket ++ closeBracket
  else
    openBracket ++ jsonLine (level + 1) ++ String.intercalate ("," ++ jsonLine (level + 1)) parts ++
      jsonLine level ++ closeBracket

mutual

/-- A part of a report at a level. -/
def toJson (level : Nat) : ReportTree → String
  | .nothing => "null"
  | .flag value => if value then "true" else "false"
  | .text value => Json.quote value
  | .list items => jsonBlock "[" "]" level (itemsToJson (level + 1) items)
  | .record fields => jsonBlock "\x7b" "\x7d" level (fieldsToJson (level + 1) fields)

/-- The items of a list at a level. -/
def itemsToJson (level : Nat) : List ReportTree → List String
  | [] => []
  | item :: rest => item.toJson level :: itemsToJson level rest

/-- The fields of a record at a level. -/
def fieldsToJson (level : Nat) : List (String × ReportTree) → List String
  | [] => []
  | (name, part) :: rest => (Json.quote name ++ ": " ++ part.toJson level) :: fieldsToJson level rest

end

end MeshAudit.ReportTree

import MeshAudit.Failure
import MeshAudit.Ordered.SortedSet

/-!
# Problems with settings

The rules that a record breaks form a tree like the record itself: reasons for each field, trees for
records inside it and for the items of lists. The tree is reported as one message that names every
field by its path, in the order of the paths.
-/

namespace MeshAudit

/-- The problems of one field of a record. -/
inductive Problem where
  /-- Reasons why the field itself is wrong; one without a text is unexplained. -/
  | reasons (texts : List (Option String))
  /-- Problems of the record that the field holds. -/
  | record (fields : List (String × Problem))
  /-- Problems of records in the list that the field holds, by their positions. -/
  | items (entries : List (Nat × List (String × Problem)))
  deriving Repr

namespace Problem

/-- A reason in words. -/
def reasonText (reason : Option String) : String := reason.getD "Invalid value"

/-- Path of a field inside a record. -/
def fieldPath (outer name : String) : String := if outer = "" then name else outer ++ "." ++ name

/-- Path of an item inside a list. -/
def itemPath (outer : String) (index : Nat) : String := s!"{outer}[{index}]"

mutual

/-- The wrong fields below a path, each with its reasons. -/
def flatten (path : String) : Problem → List (String × String)
  | .reasons texts => [(path, String.intercalate ", " (texts.map reasonText))]
  | .record fields => flattenFields path fields
  | .items entries => flattenItems path entries

/-- The wrong fields of a record at a path. -/
def flattenFields (path : String) : List (String × Problem) → List (String × String)
  | [] => []
  | (name, problem) :: rest =>
    problem.flatten (fieldPath path name) ++ flattenFields path rest

/-- The wrong fields of the items of a list at a path. -/
def flattenItems (path : String) : List (Nat × List (String × Problem)) → List (String × String)
  | [] => []
  | (index, fields) :: rest =>
    flattenFields (itemPath path index) fields ++ flattenItems path rest

end

/-- Whether a wrong field is reported no later than another: by path, then by reasons. -/
def reportedBefore (a b : String × String) : Bool :=
  compareLex (compareOn Prod.fst) (compareOn Prod.snd) a b != .gt

/-- A wrong field in words. -/
def fieldText (field : String × String) : String := field.1 ++ ": " ++ field.2

/-- The failure that reports the problems of a record. -/
def failure (problems : List (String × Problem)) : Failure :=
  let fields := (flattenFields "" problems).mergeSort reportedBefore
  let only := match fields with
    | [field] => some field.1
    | _ => none
  ⟨.validation only, "Validation failed: " ++ String.intercalate "; " (fields.map fieldText)⟩

end Problem

end MeshAudit

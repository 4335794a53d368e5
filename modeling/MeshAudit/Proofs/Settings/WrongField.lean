import Mathlib.Data.List.Nodup
import MeshAudit.Settings.Problem

/-!
# The wrong fields of a tree of problems

The problems of settings form a tree: a field is wrong itself, or it holds a record or a list of
records in which fields are wrong. Flattening the tree meets each wrong field once, since the fields
of a record differ in their names and the items of a list in their positions. It gives each its
dotted path, the labels of the steps that lead to it with dots between them. The empty path stands
for the outermost record, so an outermost field with an empty name adds nothing to the paths inside.
-/

namespace MeshAudit

/-! ### Wrong fields -/

/-- A step into a record: to one of its fields, or to an item of the list that the field holds. -/
structure FieldStep where
  /-- Name of the field. -/
  name : String
  /-- Position of the item, if the step goes on into a list. -/
  item : Option Nat := none
  deriving DecidableEq, Repr

/-- The step in a dotted path. -/
def FieldStep.label (step : FieldStep) : String :=
  match step.item with
  | none => step.name
  | some index => Problem.itemPath step.name index

/-- A wrong field, found by steps from the outermost record, with the reasons. -/
structure WrongField where
  /-- The steps that lead to the field, outermost first. -/
  way : List FieldStep
  /-- The reasons why it is wrong; one without a text is unexplained. -/
  texts : List (Option String)
  deriving DecidableEq, Repr

namespace WrongField

/-- The wrong field seen from a record further out. -/
def below (step : FieldStep) (field : WrongField) : WrongField :=
  { field with way := step :: field.way }

/-- The full dotted path of the field. -/
def fullPath (field : WrongField) : String :=
  String.intercalate "." (field.way.map FieldStep.label)

/-- The dotted path under which the field is reported: outermost names that are empty are left
out. -/
def path (field : WrongField) : String :=
  String.intercalate "." ((field.way.map FieldStep.label).dropWhile fun label => label = "")

/-- The reasons in words. -/
def reasons (field : WrongField) : String :=
  String.intercalate ", " (field.texts.map Problem.reasonText)

/-- What a report says of the field. -/
def report (field : WrongField) : String × String := (field.path, field.reasons)

/-- Whether the field is reported no later than another one. -/
def before (field other : WrongField) : Bool := Problem.reportedBefore field.report other.report

/-- A field is reported under its full path, unless the outermost name is empty. -/
theorem path_eq_fullPath {field : WrongField}
    (h : (field.way.map FieldStep.label).head? ≠ some "") : field.path = field.fullPath := by
  unfold path fullPath
  cases hlabels : field.way.map FieldStep.label with
  | nil => rfl
  | cons label rest =>
    have hne : label ≠ "" := by simpa [hlabels] using h
    simp [hne]

end WrongField

namespace Problem

/-- The record with some problems has a wrong field. -/
inductive HasWrongField : List (String × Problem) → WrongField → Prop
  /-- A field of the record itself is wrong. -/
  | here {fields : List (String × Problem)} {name : String} {texts : List (Option String)}
      (held : (name, .reasons texts) ∈ fields) : HasWrongField fields ⟨[⟨name, none⟩], texts⟩
  /-- The record that a field holds has a wrong field. -/
  | inRecord {fields inner : List (String × Problem)} {name : String} {field : WrongField}
      (held : (name, .record inner) ∈ fields) (wrong : HasWrongField inner field) :
      HasWrongField fields (field.below ⟨name, none⟩)
  /-- A record in the list that a field holds has a wrong field. -/
  | inItem {fields inner : List (String × Problem)} {entries : List (Nat × List (String × Problem))}
      {name : String} {index : Nat} {field : WrongField} (held : (name, .items entries) ∈ fields)
      (item : (index, inner) ∈ entries) (wrong : HasWrongField inner field) :
      HasWrongField fields (field.below ⟨name, some index⟩)

mutual

/-- No record inside the problem has two fields of one name, and no list two items at one
position. -/
def Keyed : Problem → Prop
  | .reasons _ => True
  | .record fields => KeyedFields fields
  | .items entries => KeyedItems entries

/-- The names of the fields differ, in this record and in those inside it. -/
def KeyedFields : List (String × Problem) → Prop
  | [] => True
  | (name, problem) :: rest => (∀ field ∈ rest, field.1 ≠ name) ∧ problem.Keyed ∧ KeyedFields rest

/-- The positions of the items differ, and so do the names of the fields inside them. -/
def KeyedItems : List (Nat × List (String × Problem)) → Prop
  | [] => True
  | (index, fields) :: rest =>
    (∀ entry ∈ rest, entry.1 ≠ index) ∧ KeyedFields fields ∧ KeyedItems rest

end

/-! ### The wrong fields of a tree -/

mutual

/-- The wrong fields of a problem at a field of a name. -/
def wrongFieldsAt (name : String) : Problem → List WrongField
  | .reasons texts => [⟨[⟨name, none⟩], texts⟩]
  | .record fields => (wrongFields fields).map (WrongField.below ⟨name, none⟩)
  | .items entries => wrongFieldsInItems name entries

/-- The wrong fields of a record. -/
def wrongFields : List (String × Problem) → List WrongField
  | [] => []
  | (name, problem) :: rest => wrongFieldsAt name problem ++ wrongFields rest

/-- The wrong fields of the items of a list at a field of a name. -/
def wrongFieldsInItems (name : String) : List (Nat × List (String × Problem)) → List WrongField
  | [] => []
  | (index, fields) :: rest =>
    (wrongFields fields).map (WrongField.below ⟨name, some index⟩) ++ wrongFieldsInItems name rest

end

/-- The path of a field that is reached by steps from a path. -/
def pathFrom (outer : String) (way : List FieldStep) : String :=
  way.foldl (fun path step => fieldPath path step.label) outer

/-- The path of an item is the path of its label. -/
theorem itemPath_fieldPath (outer name : String) (index : Nat) :
    itemPath (fieldPath outer name) index =
      fieldPath outer (FieldStep.label ⟨name, some index⟩) := by
  unfold fieldPath
  split
  · rfl
  · have htext : ∀ text, itemPath text index = text ++ ("[" ++ toString index ++ "]") := by
      intro text
      simp only [itemPath, String.append_assoc]
      rfl
    simp only [htext, FieldStep.label, String.append_assoc]

mutual

/-- Flattening a problem gives its wrong fields with their paths. -/
theorem flatten_eq (outer name : String) : (problem : Problem) →
    problem.flatten (fieldPath outer name) = (wrongFieldsAt name problem).map fun field =>
      (pathFrom outer field.way, field.reasons)
  | .reasons texts => rfl
  | .record fields => by
    rw [flatten, wrongFieldsAt, flattenFields_eq, List.map_map]
    rfl
  | .items entries => by
    rw [flatten, wrongFieldsAt, flattenItems_eq]

/-- Flattening a record gives its wrong fields with their paths. -/
theorem flattenFields_eq (outer : String) : (fields : List (String × Problem)) →
    flattenFields outer fields = (wrongFields fields).map fun field =>
      (pathFrom outer field.way, field.reasons)
  | [] => rfl
  | (name, problem) :: rest => by
    rw [flattenFields, wrongFields, flatten_eq, flattenFields_eq outer rest, List.map_append]

/-- Flattening the items of a list gives their wrong fields with their paths. -/
theorem flattenItems_eq (outer name : String) :
    (entries : List (Nat × List (String × Problem))) →
    flattenItems (fieldPath outer name) entries = (wrongFieldsInItems name entries).map fun field =>
      (pathFrom outer field.way, field.reasons)
  | [] => rfl
  | (index, fields) :: rest => by
    rw [flattenItems, wrongFieldsInItems, itemPath_fieldPath, flattenFields_eq,
      flattenItems_eq outer name rest, List.map_append, List.map_map]
    rfl

end

/-! ### Paths -/

/-- From a path that is not empty, every step adds its label after a dot. -/
theorem pathFrom_of_ne_empty {outer : String} (h : outer ≠ "") (way : List FieldStep) :
    pathFrom outer way = String.intercalate "." (outer :: way.map FieldStep.label) := by
  induction way generalizing outer with
  | nil => exact String.intercalate_singleton.symm
  | cons step rest ih =>
    have hfield : fieldPath outer step.label = outer ++ "." ++ step.label := if_neg h
    have hne : outer ++ "." ++ step.label ≠ "" := by
      intro hnil
      have hlength := congrArg String.length hnil
      simp at hlength
    have hstep : pathFrom outer (step :: rest) = pathFrom (outer ++ "." ++ step.label) rest := by
      rw [← hfield]
      rfl
    rw [hstep, ih hne, List.map_cons, String.intercalate_cons_append,
      String.intercalate_cons_cons]

/-- From the outermost record, a field is reported under its dotted path. -/
theorem pathFrom_empty (field : WrongField) : pathFrom "" field.way = field.path := by
  unfold WrongField.path
  induction field.way with
  | nil => rfl
  | cons step rest ih =>
    have hstep : pathFrom "" (step :: rest) = pathFrom step.label rest := rfl
    rw [hstep, List.map_cons, List.dropWhile_cons]
    by_cases hlabel : step.label = ""
    · rw [hlabel, ih]
      simp
    · rw [pathFrom_of_ne_empty hlabel]
      simp [hlabel]

/-- Flattening the outermost record gives what the report says of its wrong fields. -/
theorem flattenFields_empty (fields : List (String × Problem)) :
    flattenFields "" fields = (wrongFields fields).map WrongField.report := by
  rw [flattenFields_eq]
  simp only [pathFrom_empty]
  rfl

/-! ### Every wrong field once -/

/-- The wrong fields of a record are those at its fields. -/
theorem wrongFields_eq_flatMap (fields : List (String × Problem)) :
    wrongFields fields = fields.flatMap fun field => wrongFieldsAt field.1 field.2 := by
  induction fields with
  | nil => rfl
  | cons field rest ih => rw [wrongFields, ih, List.flatMap_cons]

/-- The wrong fields of a list are those of its items. -/
theorem wrongFieldsInItems_eq_flatMap (name : String)
    (entries : List (Nat × List (String × Problem))) :
    wrongFieldsInItems name entries = entries.flatMap fun entry =>
      (wrongFields entry.2).map (WrongField.below ⟨name, some entry.1⟩) := by
  induction entries with
  | nil => rfl
  | cons entry rest ih => rw [wrongFieldsInItems, ih, List.flatMap_cons]

/-- A wrong field of the tree is listed. -/
theorem HasWrongField.mem_wrongFields {fields : List (String × Problem)} {field : WrongField}
    (h : HasWrongField fields field) : field ∈ wrongFields fields := by
  induction h with
  | here held =>
    rw [wrongFields_eq_flatMap, List.mem_flatMap]
    exact ⟨_, held, List.mem_singleton_self _⟩
  | inRecord held _ ih =>
    rw [wrongFields_eq_flatMap, List.mem_flatMap]
    exact ⟨_, held, List.mem_map_of_mem ih⟩
  | @inItem fields inner entries name index field held item _ ih =>
    have hitem : field.below ⟨name, some index⟩ ∈ wrongFieldsInItems name entries := by
      rw [wrongFieldsInItems_eq_flatMap, List.mem_flatMap]
      exact ⟨_, item, List.mem_map_of_mem ih⟩
    rw [wrongFields_eq_flatMap, List.mem_flatMap]
    exact ⟨_, held, hitem⟩

mutual

/-- What is listed for a field of a record is a wrong field of the record. -/
theorem hasWrongField_of_memAt {fields : List (String × Problem)} {name : String}
    {field : WrongField} : (problem : Problem) → (name, problem) ∈ fields →
    field ∈ wrongFieldsAt name problem → HasWrongField fields field
  | .reasons texts, held, h => by
    obtain rfl := List.mem_singleton.1 h
    exact .here held
  | .record inner, held, h => by
    obtain ⟨field, hfield, rfl⟩ := List.mem_map.1 h
    exact .inRecord held (hasWrongField_of_mem inner (fun _ => id) hfield)
  | .items entries, held, h => hasWrongField_of_memInItems entries held (fun _ => id) h
termination_by structural problem => problem

/-- What is listed for some fields of a record is a wrong field of the record. -/
theorem hasWrongField_of_mem {whole : List (String × Problem)} {field : WrongField} :
    (fields : List (String × Problem)) → (∀ x ∈ fields, x ∈ whole) →
    field ∈ wrongFields fields → HasWrongField whole field
  | [], _, h => absurd h List.not_mem_nil
  | (name, problem) :: rest, within, h => by
    obtain ⟨hfirst, hrest⟩ := List.forall_mem_cons.1 within
    rcases List.mem_append.1 h with h | h
    · exact hasWrongField_of_memAt problem hfirst h
    · exact hasWrongField_of_mem rest hrest h
termination_by structural fields => fields

/-- What is listed for some items of a list is a wrong field of the record with the list. -/
theorem hasWrongField_of_memInItems {fields : List (String × Problem)} {name : String}
    {whole : List (Nat × List (String × Problem))} {field : WrongField} :
    (entries : List (Nat × List (String × Problem))) → (name, .items whole) ∈ fields →
    (∀ x ∈ entries, x ∈ whole) → field ∈ wrongFieldsInItems name entries →
    HasWrongField fields field
  | [], _, _, h => absurd h List.not_mem_nil
  | (index, inner) :: rest, held, within, h => by
    obtain ⟨hfirst, hrest⟩ := List.forall_mem_cons.1 within
    rcases List.mem_append.1 h with h | h
    · obtain ⟨field, hfield, rfl⟩ := List.mem_map.1 h
      exact .inItem held hfirst (hasWrongField_of_mem inner (fun _ => id) hfield)
    · exact hasWrongField_of_memInItems rest held hrest h
termination_by structural entries => entries

end

/-- The wrong fields of a tree are listed, and nothing else is. -/
theorem mem_wrongFields_iff {fields : List (String × Problem)} {field : WrongField} :
    field ∈ wrongFields fields ↔ HasWrongField fields field :=
  ⟨hasWrongField_of_mem fields fun _ => id, HasWrongField.mem_wrongFields⟩

/-- What is listed for a field of a record starts with a step to the field. -/
theorem exists_way_of_memAt {name : String} {field : WrongField} (problem : Problem)
    (h : field ∈ wrongFieldsAt name problem) :
    ∃ item rest, field.way = ⟨name, item⟩ :: rest := by
  cases problem with
  | reasons texts =>
    obtain rfl := List.mem_singleton.1 h
    exact ⟨none, [], rfl⟩
  | record fields =>
    obtain ⟨inner, -, rfl⟩ := List.mem_map.1 h
    exact ⟨none, inner.way, rfl⟩
  | items entries =>
    rw [wrongFieldsAt, wrongFieldsInItems_eq_flatMap] at h
    obtain ⟨entry, -, hentry⟩ := List.mem_flatMap.1 h
    obtain ⟨inner, -, rfl⟩ := List.mem_map.1 hentry
    exact ⟨some entry.1, inner.way, rfl⟩

/-- Wrong fields that differ still differ when they are seen from further out. -/
theorem below_injective (step : FieldStep) : Function.Injective (WrongField.below step) := by
  intro first second h
  cases first
  cases second
  simpa [WrongField.below] using h

mutual

/-- No wrong field of a problem is listed twice. -/
theorem nodup_wrongFieldsAt (name : String) : (problem : Problem) → problem.Keyed →
    (wrongFieldsAt name problem).Nodup
  | .reasons _, _ => List.nodup_singleton _
  | .record fields, keyed => (nodup_wrongFields fields keyed).map (below_injective _)
  | .items entries, keyed => nodup_wrongFieldsInItems name entries keyed
termination_by structural problem => problem

/-- No wrong field of a record is listed twice, as two fields of the record have different names. -/
theorem nodup_wrongFields : (fields : List (String × Problem)) → KeyedFields fields →
    (wrongFields fields).Nodup
  | [], _ => List.nodup_nil
  | (name, problem) :: rest, keyed => by
    obtain ⟨hnames, hproblem, hrest⟩ := keyed
    refine List.nodup_append.2
      ⟨nodup_wrongFieldsAt name problem hproblem, nodup_wrongFields rest hrest, ?_⟩
    rintro field hfirst other hother rfl
    rw [wrongFields_eq_flatMap] at hother
    obtain ⟨next, hnext, hfield⟩ := List.mem_flatMap.1 hother
    obtain ⟨_, _, hway⟩ := exists_way_of_memAt problem hfirst
    obtain ⟨_, _, hwayNext⟩ := exists_way_of_memAt next.2 hfield
    have hsame := (hway.symm.trans hwayNext)
    simp only [List.cons.injEq, FieldStep.mk.injEq] at hsame
    exact hnames next hnext hsame.1.1.symm
termination_by structural fields => fields

/-- No wrong field of a list is listed twice, as two items have different positions. -/
theorem nodup_wrongFieldsInItems (name : String) :
    (entries : List (Nat × List (String × Problem))) → KeyedItems entries →
    (wrongFieldsInItems name entries).Nodup
  | [], _ => List.nodup_nil
  | (index, fields) :: rest, keyed => by
    obtain ⟨hindices, hfields, hrest⟩ := keyed
    refine List.nodup_append.2 ⟨(nodup_wrongFields fields hfields).map (below_injective _),
      nodup_wrongFieldsInItems name rest hrest, ?_⟩
    rintro field hfirst other hother rfl
    rw [wrongFieldsInItems_eq_flatMap] at hother
    obtain ⟨next, hnext, hfield⟩ := List.mem_flatMap.1 hother
    obtain ⟨inner, -, rfl⟩ := List.mem_map.1 hfirst
    obtain ⟨innerNext, -, hsame⟩ := List.mem_map.1 hfield
    simp only [WrongField.below, WrongField.mk.injEq, List.cons.injEq, FieldStep.mk.injEq,
      Option.some.injEq] at hsame
    exact hindices next hnext hsame.1.1.2
termination_by structural entries => entries

end

end Problem

end MeshAudit

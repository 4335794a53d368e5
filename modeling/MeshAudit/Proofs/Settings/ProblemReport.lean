import MeshAudit.Proofs.Settings.WrongField

/-!
# Reports of problems

A report lists the wrong fields of a tree of problems, sorted by their paths. The fields of a record
come in no order of their own, so what is reported must not depend on the order in which they are
met. It does not: another order of the fields gives the same wrong fields in another order, and of
these there is only one sorted list.
-/

namespace MeshAudit

open Std

namespace Problem

/-! ### The order of the fields -/

/-- Two problems differ at most by the order in which the fields of records are listed. -/
inductive Reordered : Problem → Problem → Prop
  | refl (problem : Problem) : Reordered problem problem
  | trans {first second third : Problem} (left : Reordered first second)
      (right : Reordered second third) : Reordered first third
  /-- The fields of a record are listed in another order. -/
  | fields {fields other : List (String × Problem)} (perm : fields.Perm other) :
      Reordered (.record fields) (.record other)
  /-- The problem of one field is reordered. -/
  | inField (before after : List (String × Problem)) (name : String) {problem other : Problem}
      (inner : Reordered problem other) :
      Reordered (.record (before ++ (name, problem) :: after))
        (.record (before ++ (name, other) :: after))
  /-- The record at one place of a list is reordered. -/
  | inItem (before after : List (Nat × List (String × Problem))) (index : Nat)
      {fields other : List (String × Problem)}
      (inner : Reordered (.record fields) (.record other)) :
      Reordered (.items (before ++ (index, fields) :: after))
        (.items (before ++ (index, other) :: after))

/-- Flattening a record flattens its fields one by one. -/
theorem flattenFields_eq_flatMap (path : String) (fields : List (String × Problem)) :
    flattenFields path fields =
      fields.flatMap fun field => field.2.flatten (fieldPath path field.1) := by
  induction fields with
  | nil => rfl
  | cons field rest ih => rw [flattenFields, ih, List.flatMap_cons]

/-- Flattening a list flattens its items one by one. -/
theorem flattenItems_eq_flatMap (path : String) (entries : List (Nat × List (String × Problem))) :
    flattenItems path entries =
      entries.flatMap fun entry => flattenFields (itemPath path entry.1) entry.2 := by
  induction entries with
  | nil => rfl
  | cons entry rest ih => rw [flattenItems, ih, List.flatMap_cons]

/-- Reordering a problem only changes the order in which its wrong fields are met. -/
theorem Reordered.flatten_perm {problem other : Problem} (h : Reordered problem other)
    (path : String) : (problem.flatten path).Perm (other.flatten path) := by
  induction h generalizing path with
  | refl problem => exact .refl _
  | trans _ _ ih ih' => exact (ih path).trans (ih' path)
  | fields perm =>
    rw [flatten, flatten, flattenFields_eq_flatMap, flattenFields_eq_flatMap]
    exact perm.flatMap_right _
  | inField before after name _ ih =>
    simp only [flatten, flattenFields_eq_flatMap, List.flatMap_append, List.flatMap_cons]
    exact ((ih _).append_right _).append_left _
  | inItem before after index _ ih =>
    have hinner := ih (itemPath path index)
    rw [flatten, flatten] at hinner
    simp only [flatten, flattenItems_eq_flatMap, List.flatMap_append, List.flatMap_cons]
    exact (hinner.append_right _).append_left _

/-! ### The order of the report -/

/-- Wrong fields are compared by their paths, and by their reasons where these are the same. -/
abbrev reportOrder : String × String → String × String → Ordering :=
  compareLex (compareOn Prod.fst) (compareOn Prod.snd)

/-- A wrong field comes before another one unless it comes after it. -/
theorem reportedBefore_iff {a b : String × String} :
    reportedBefore a b = true ↔ (reportOrder a b).isLE = true := by
  rw [Ordering.isLE_iff_ne_gt, reportedBefore, bne_iff_ne]

/-- What is reported before something that is reported before a third is so before the third. -/
theorem reportedBefore_trans (a b c : String × String) (hab : reportedBefore a b = true)
    (hbc : reportedBefore b c = true) : reportedBefore a c = true := by
  rw [reportedBefore_iff] at *
  exact TransCmp.isLE_trans hab hbc

/-- Of two wrong fields, one is reported before the other. -/
theorem reportedBefore_total (a b : String × String) :
    (reportedBefore a b || reportedBefore b a) = true := by
  rw [Bool.or_eq_true, reportedBefore_iff, reportedBefore_iff, ← OrientedCmp.isGE_iff_isLE (a := a)]
  cases reportOrder a b with
  | lt => exact .inl rfl
  | eq => exact .inl rfl
  | gt => exact .inr rfl

/-- Two wrong fields that are each reported before the other say the same. -/
theorem reportedBefore_antisymm {a b : String × String} (hab : reportedBefore a b = true)
    (hba : reportedBefore b a = true) : a = b := by
  rw [reportedBefore_iff] at hab hba
  have heq : reportOrder a b = .eq := OrientedCmp.isLE_antisymm hab hba
  obtain ⟨hfst, hsnd⟩ := compareLex_eq_eq.1 heq
  exact Prod.ext (LawfulEqCmp.eq_of_compare hfst) (LawfulEqCmp.eq_of_compare hsnd)

/-- A wrong field that is reported before another one does not have the greater path. -/
theorem fst_le_of_reportedBefore {a b : String × String} (h : reportedBefore a b = true) :
    a.1 ≤ b.1 := by
  rw [reportedBefore_iff] at h
  have hpath : (compare a.1 b.1).isLE = true := by
    unfold reportOrder compareLex compareOn at h
    exact Ordering.isLE_left_of_isLE_then h
  exact (isLE_compareOfLessAndEq String.le_antisymm String.not_le String.le_total).1 hpath

/-- A wrong field with the smaller path is reported before. -/
theorem reportedBefore_of_lt {a b : String × String} (h : a.1 < b.1) :
    reportedBefore a b = true := by
  by_contra hnot
  have hother : reportedBefore b a = true := by
    have htotal := reportedBefore_total a b
    rw [Bool.or_eq_true] at htotal
    exact htotal.resolve_left hnot
  exact String.not_le.2 h (fst_le_of_reportedBefore hother)

/-- The same wrong fields are reported in the same order, in whatever order they are met. -/
theorem mergeSort_eq_of_perm {fields other : List (String × String)} (h : fields.Perm other) :
    fields.mergeSort reportedBefore = other.mergeSort reportedBefore := by
  have hperm := ((List.mergeSort_perm fields reportedBefore).trans h).trans
    (List.mergeSort_perm other reportedBefore).symm
  have hsorted : ∀ fields : List (String × String),
      (fields.mergeSort reportedBefore).Pairwise fun a b => reportedBefore a b = true :=
    fun fields => List.pairwise_mergeSort reportedBefore_trans reportedBefore_total fields
  exact hperm.eq_of_pairwise (fun a b _ _ hab hba => reportedBefore_antisymm hab hba)
    (hsorted fields) (hsorted other)

/-- The report of a tree does not depend on the order in which the fields of its records are
listed. -/
theorem failure_eq_of_reordered {fields other : List (String × Problem)}
    (h : Reordered (.record fields) (.record other)) : failure other = failure fields := by
  have hperm : (flattenFields "" fields).Perm (flattenFields "" other) := h.flatten_perm ""
  simp only [failure, mergeSort_eq_of_perm hperm]

/-! ### The report -/

/-- The wrong fields of a record in the order in which they are reported. -/
def reportedFields (fields : List (String × Problem)) : List WrongField :=
  (wrongFields fields).mergeSort WrongField.before

/-- The report lists the wrong fields one after another, and names the only one as the field. -/
theorem failure_eq (fields : List (String × Problem)) :
    failure fields =
      ⟨.validation (match reportedFields fields with
        | [field] => some field.path
        | _ => none),
      "Validation failed: " ++ String.intercalate "; " ((reportedFields fields).map fun field =>
        field.path ++ ": " ++ field.reasons)⟩ := by
  have hsorted : (flattenFields "" fields).mergeSort reportedBefore =
      (reportedFields fields).map WrongField.report := by
    have horder : ∀ a ∈ wrongFields fields, ∀ b ∈ wrongFields fields,
        a.before b = reportedBefore a.report b.report := fun _ _ _ _ => rfl
    rw [flattenFields_empty, reportedFields, List.map_mergeSort horder]
  rw [failure, hsorted]
  simp only [List.map_map]
  congr 2
  cases reportedFields fields with
  | nil => rfl
  | cons field rest =>
    cases rest with
    | nil => rfl
    | cons next rest => rfl

/-- The fields reported are the wrong ones. -/
theorem mem_reportedFields_iff {fields : List (String × Problem)} {field : WrongField} :
    field ∈ reportedFields fields ↔ HasWrongField fields field := by
  rw [reportedFields, (List.mergeSort_perm _ _).mem_iff, mem_wrongFields_iff]

/-- No field is reported twice. -/
theorem nodup_reportedFields {fields : List (String × Problem)} (keyed : KeyedFields fields) :
    (reportedFields fields).Nodup :=
  (List.mergeSort_perm _ _).nodup_iff.2 (nodup_wrongFields fields keyed)

/-- The fields are reported in the order of their paths. -/
theorem pairwise_reportedFields (fields : List (String × Problem)) :
    (reportedFields fields).Pairwise fun a b => a.path ≤ b.path := by
  have htrans : ∀ a b c : WrongField, a.before b = true → b.before c = true → a.before c = true :=
    fun a b c => reportedBefore_trans a.report b.report c.report
  have htotal : ∀ a b : WrongField, (a.before b || b.before a) = true :=
    fun a b => reportedBefore_total a.report b.report
  have hsorted := List.pairwise_mergeSort htrans htotal (wrongFields fields)
  exact hsorted.imp fun h => fst_le_of_reportedBefore h

/-- A single field is reported exactly when the tree has a single wrong field. -/
theorem reportedFields_eq_singleton_iff {fields : List (String × Problem)}
    (keyed : KeyedFields fields) {field : WrongField} :
    reportedFields fields = [field] ↔ ∀ x, HasWrongField fields x ↔ x = field := by
  constructor
  · intro h x
    rw [← mem_reportedFields_iff, h, List.mem_singleton]
  · intro h
    have hmem : ∀ x, x ∈ reportedFields fields ↔ x ∈ [field] := by
      intro x
      rw [mem_reportedFields_iff, h, List.mem_singleton]
    exact List.perm_singleton.1 ((List.perm_ext_iff_of_nodup (nodup_reportedFields keyed)
      (List.nodup_singleton field)).2 hmem)

/-- The report of a tree is the same in whatever order its fields are listed. Its message lists
every wrong field once with its reasons, sorted by the paths, which leave out empty outermost names.
It names the field when there is a single one. -/
theorem failure_lists_wrong_fields {fields : List (String × Problem)}
    (keyed : KeyedFields fields) :
    (∀ other, Reordered (.record fields) (.record other) → failure other = failure fields) ∧
    (∃ listed : List WrongField,
      (listed.Nodup ∧ ∀ field, field ∈ listed ↔ HasWrongField fields field) ∧
      listed.Pairwise (fun a b => a.path ≤ b.path) ∧
      (failure fields).message = "Validation failed: " ++
        String.intercalate "; " (listed.map fun field => field.path ++ ": " ++ field.reasons)) ∧
    (∀ field, HasWrongField fields field →
      (field.way.map FieldStep.label).head? ≠ some "" → field.path = field.fullPath) ∧
    (∀ path, (failure fields).kind = .validation (some path) ↔
      ∃ field, (∀ x, HasWrongField fields x ↔ x = field) ∧ field.path = path) ∧
    ((failure fields).kind = .validation none ↔ ¬ ∃ field, ∀ x, HasWrongField fields x ↔ x = field)
    := by
  have hkind : ∀ path, (failure fields).kind = .validation path ↔
      path = match reportedFields fields with
        | [field] => some field.path
        | _ => none := by
    intro path
    rw [failure_eq]
    exact ⟨fun h => (FailureKind.validation.inj h).symm, fun h => congrArg _ h.symm⟩
  refine ⟨fun other h => failure_eq_of_reordered h, ⟨reportedFields fields,
    ⟨nodup_reportedFields keyed, fun field => mem_reportedFields_iff⟩,
    pairwise_reportedFields fields, congrArg Failure.message (failure_eq fields)⟩,
    fun field _ h => WrongField.path_eq_fullPath h, fun path => ?_, ?_⟩
  · rw [hkind]
    simp only [← reportedFields_eq_singleton_iff keyed]
    split
    · next field hone => simp [hone, eq_comm]
    · next hmany => simpa using fun field hone => absurd hone (hmany field)
  · rw [hkind]
    simp only [← reportedFields_eq_singleton_iff keyed]
    split
    · next field hone => simp [hone]
    · next hmany => simpa using hmany

/-- A wrong field in a list and one in a record are reported in the order of their paths, however
the two are listed, and no field is named; without the record, the one in the list is. -/
theorem failure_lists_wrong_fields_of_list :
    let item : String × Problem := ("l", .items [(3, [("z", .reasons [some "deep", none])])])
    let record : String × Problem := ("a", .record [("b", .reasons [some "x"])])
    (KeyedFields [item, record] ∧
      Reordered (.record [item, record]) (.record [record, item])) ∧
    failure [record, item] = failure [item, record] ∧
    (failure [item, record]).message = "Validation failed: a.b: x; l[3].z: deep, Invalid value" ∧
    (failure [item, record]).kind = .validation none ∧
    KeyedFields [item] ∧ (failure [item]).kind = .validation (some "l[3].z") := by
  intro item record
  have hkeyed : KeyedFields [item, record] := by simp [KeyedFields, Keyed, KeyedItems, item, record]
  have hkeyedItem : KeyedFields [item] := by simp [KeyedFields, Keyed, KeyedItems, item]
  have hreordered : Reordered (.record [item, record]) (.record [record, item]) :=
    .fields (.swap record item [])
  let inList : WrongField := ⟨[⟨"l", some 3⟩, ⟨"z", none⟩], [some "deep", none]⟩
  let inRecord : WrongField := ⟨[⟨"a", none⟩, ⟨"b", none⟩], [some "x"]⟩
  have hboth : ∀ x, HasWrongField [item, record] x ↔ x ∈ [inList, inRecord] :=
    fun _ => mem_wrongFields_iff.symm
  have hone : ∀ x, HasWrongField [item] x ↔ x ∈ [inList] := fun _ => mem_wrongFields_iff.symm
  obtain ⟨horder, -, -, -, hnone⟩ := failure_lists_wrong_fields hkeyed
  obtain ⟨-, -, -, hsome, -⟩ := failure_lists_wrong_fields hkeyedItem
  have hsame : failure [record, item] = failure [item, record] := horder _ hreordered
  have hsorted : reportedFields [record, item] = [inRecord, inList] :=
    List.mergeSort_of_pairwise (by decide)
  refine ⟨⟨hkeyed, hreordered⟩, hsame, ?_, hnone.2 ?_, hkeyedItem,
    (hsome "l[3].z").2 ⟨inList, fun x => ?_, by decide⟩⟩
  · rw [← hsame, failure_eq, hsorted]
    decide
  · rintro ⟨field, hfield⟩
    have hfirst : inList = field := (hfield inList).1 ((hboth inList).2 (by decide))
    have hsecond : inRecord = field := (hfield inRecord).1 ((hboth inRecord).2 (by decide))
    exact absurd (hfirst.trans hsecond.symm) (by decide)
  · rw [hone, List.mem_singleton]

/-- A field with an empty name that holds a record leaves no trace in the path of a wrong field
inside: the path that is reported is not the full one. -/
theorem empty_name_left_out :
    let fields : List (String × Problem) := [("", .record [("x", .reasons [some "p"])])]
    let field : WrongField := ⟨[⟨"", none⟩, ⟨"x", none⟩], [some "p"]⟩
    (∀ x, HasWrongField fields x ↔ x = field) ∧ field.fullPath = ".x" ∧
    failure fields = ⟨.validation (some "x"), "Validation failed: x: p"⟩ ∧
    (failure fields).kind ≠ .validation (some field.fullPath) ∧
    (failure fields).message ≠
      "Validation failed: " ++ (field.fullPath ++ ": " ++ field.reasons) := by
  intro fields field
  have hone : ∀ x, HasWrongField fields x ↔ x ∈ [field] := fun _ => mem_wrongFields_iff.symm
  have hfailure : failure fields = ⟨.validation (some "x"), "Validation failed: x: p"⟩ := by
    decide +kernel
  refine ⟨fun x => (hone x).trans List.mem_singleton, by decide, hfailure, ?_, ?_⟩
  · rw [hfailure]
    decide
  · rw [hfailure]
    decide

end Problem

end MeshAudit

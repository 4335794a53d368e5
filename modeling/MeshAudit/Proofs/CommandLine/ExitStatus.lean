import MeshAudit.CommandLine.Run
import MeshAudit.Proofs.Analysis.Soundness
import MeshAudit.Proofs.Snapshot.Loading

/-!
# The exit status of an analysis

An analysis reads the settings, the words for format and severity and the manifest, in this order.
The first that cannot be read decides the exit code, and nothing is printed then. When all can be
read the exit code says whether there is an error among the findings, and what is printed is what
the severity leaves of them. The code comes from marks in the whole graph, the print from the
filtered one: they go together because a sound graph marks an object as invalid just for an error.
-/

namespace MeshAudit

/-! ### Errors in a graph -/

namespace Graph

/-- Some finding of a graph is an error. -/
def HasError (graph : Graph) : Prop :=
  ∃ entry ∈ graph.entries, ∃ finding ∈ entry.findings, finding.severity = .error

/-- An object of a sound graph is marked as invalid when the graph has an error. -/
theorem Sound.allValid_eq_false_iff {graph : Graph} (sound : graph.Sound) :
    graph.allValid = false ↔ graph.HasError := by
  rw [allValid, List.all_eq_false, HasError]
  refine exists_congr fun entry => and_congr_right fun hentry => ?_
  rw [← (sound.entries entry hentry).invalid_iff, Bool.not_eq_true]

/-- A filtered graph is empty unless some finding passes the filter. -/
theorem isEmpty_filterSeverity_eq_false_iff {graph : Graph} {minimum : Severity} :
    (graph.filterSeverity minimum).isEmpty = false ↔
      ∃ entry ∈ graph.entries, ∃ finding ∈ entry.findings,
        finding.severity.atLeast minimum = true := by
  have hfull := graph.hasFindings_filterSeverity minimum
  rw [isEmpty, List.isEmpty_eq_false_iff_exists_mem]
  constructor
  · rintro ⟨entry, hentry⟩
    have hne := hfull entry hentry
    rw [← findings_of_mem hentry, findings_filterSeverity] at hne
    obtain ⟨finding, hfinding⟩ := List.exists_mem_of_ne_nil _ hne
    obtain ⟨hmem, hpass⟩ := List.mem_filter.1 hfinding
    cases hg : graph.get? entry.key with
    | none => simp [findings, hg] at hmem
    | some held =>
      have hheld := (get?_eq_some_iff.1 hg).1
      exact ⟨held, hheld, finding, by simpa [findings, hg] using hmem, hpass⟩
  · rintro ⟨entry, hentry, finding, hmem, hpass⟩
    have hne : (graph.filterSeverity minimum).findings entry.key ≠ [] := by
      rw [findings_filterSeverity, findings_of_mem hentry]
      exact List.ne_nil_of_mem (List.mem_filter.2 ⟨hmem, hpass⟩)
    obtain ⟨kept, hkept⟩ := Option.isSome_iff_exists.1 (hfull.contains_iff.2 hne)
    exact ⟨kept, (get?_eq_some_iff.1 hkept).1⟩

/-- A graph has an error when the filter for errors leaves something of it. -/
theorem hasError_iff_filterSeverity {graph : Graph} :
    graph.HasError ↔ (graph.filterSeverity .error).isEmpty = false := by
  simp only [isEmpty_filterSeverity_eq_false_iff, Severity.atLeast_error, HasError]

end Graph

/-! ### Exit codes of failures -/

/-- Settings that break a rule have one exit code, whichever rule it is. -/
theorem Settings.exitCode_of_validate {settings : Settings} {failure : Failure}
    (h : settings.validate = .error failure) : failure.exitCode = 78 := by
  rw [validate] at h
  split at h
  · cases h
    rfl
  · split at h
    · cases h
      rfl
    · cases h

/-- Settings that cannot be loaded have this exit code as well. -/
theorem Settings.exitCode_of_load {files : FileTree} {environment : Environment}
    {path : Option String} {failure : Failure}
    (h : Settings.load files environment path = .error failure) : failure.exitCode = 78 := by
  rw [load] at h
  split at h
  · cases h
    rfl
  next settings _ =>
    cases hrules : settings.validate with
    | error problem =>
      rw [hrules] at h
      cases h
      exact exitCode_of_validate hrules
    | ok _ =>
      rw [hrules] at h
      cases h

/-- Documents that cannot be read have one exit code, whatever is wrong with them. -/
theorem Snapshot.exitCode_of_ofDocuments {documents : List (Option Yaml.Datum)} {failure : Failure}
    (h : Snapshot.ofDocuments documents = .error failure) : failure.exitCode = 65 := by
  obtain ⟨before, document, after, fault, -, -, -, rfl⟩ := ofDocuments_eq_error_iff.1 h
  cases fault <;> rfl

/-- A manifest that cannot be loaded has one exit code when its file has no text, and another one
when the text is wrong. -/
theorem Snapshot.exitCode_of_ofFile {path : String} {text : Option String} {failure : Failure}
    (h : Snapshot.ofFile path text = .error failure) :
    failure.exitCode = if text.isNone then 74 else 65 := by
  cases text with
  | none =>
    cases h
    rfl
  | some text => exact exitCode_of_ofDocuments h

/-- The name of a severity is read as the severity. -/
theorem Severity.ofWord_label (severity : Severity) : ofWord severity.label = .ok severity := by
  have hlower : severity.label.toLower = severity.label := by
    cases severity <;> decide +kernel
  rw [ofWord, hlower]
  cases severity <;> rfl

namespace CommandLine

/-- Nothing that was being done changes the exit code. -/
theorem Refusal.exitCode_foldr_during (works : List String) (refusal : Refusal) :
    (works.foldr during refusal).exitCode = refusal.exitCode := by
  induction works with
  | nil => rfl
  | cons work rest ih => exact ih

/-! ### What an analysis reads -/

/-- What an analysis reads before it starts, in this order. -/
structure Readings where
  /-- The settings. -/
  settings : Except Failure Settings
  /-- The format. -/
  format : Except UnknownWord ReportFormat
  /-- The least severity. -/
  minimum : Except UnknownWord Severity
  /-- The snapshot. -/
  snapshot : Except Failure Snapshot

/-- What the analysis of a manifest reads. -/
def Readings.of (files : FileTree) (environment : Environment) (config : Option String)
    (path format severity : String) : Readings where
  settings := Settings.load files environment config
  format := ReportFormat.ofWord format
  minimum := Severity.ofWord severity
  snapshot := Snapshot.ofFile path ((files path).bind StoredFile.text?)

/-- The exit code of the first reading that fails. -/
inductive Readings.FailsWith : Readings → Nat → Prop
  /-- The settings cannot be loaded. -/
  | settings {failure : Failure} {format minimum snapshot} :
    FailsWith ⟨.error failure, format, minimum, snapshot⟩ failure.exitCode
  /-- There is no such format. -/
  | format {settings : Settings} {word : UnknownWord} {minimum snapshot} :
    FailsWith ⟨.ok settings, .error word, minimum, snapshot⟩ 1
  /-- There is no such severity. -/
  | minimum {settings : Settings} {format : ReportFormat} {word : UnknownWord} {snapshot} :
    FailsWith ⟨.ok settings, .ok format, .error word, snapshot⟩ 1
  /-- The snapshot cannot be loaded. -/
  | snapshot {settings : Settings} {format : ReportFormat} {minimum : Severity}
    {failure : Failure} :
    FailsWith ⟨.ok settings, .ok format, .ok minimum, .error failure⟩ failure.exitCode

variable {arguments : List String} {environment : Environment} {assignments : Option StoredFile}
  {files : FileTree} {config : Option String} {verbose : Bool} {path format severity : String}

/-- An analysis that can read everything comes to its graph. -/
theorem run_of_loaded
    (asked : readArguments arguments = .ok ⟨config, verbose, .analyze path format severity⟩)
    {settings : Settings} {shape : ReportFormat} {minimum : Severity} {snapshot : Snapshot}
    (h : Readings.of files (VariableFile.load assignments environment) config path format severity =
      ⟨.ok settings, .ok shape, .ok minimum, .ok snapshot⟩) :
    run arguments environment assignments files =
      analysisOutcome (settings.mesh.analyze snapshot) shape minimum := by
  simp only [Readings.of, Readings.mk.injEq] at h
  obtain ⟨hsettings, hformat, hminimum, hsnapshot⟩ := h
  simp only [run, asked, runInvocation, runCommand, loadSnapshot, hsettings, hformat, hminimum,
    hsnapshot]
  rfl

/-- An analysis that cannot read something prints nothing and exits with the code of the first such
thing. -/
theorem run_of_failsWith
    (asked : readArguments arguments = .ok ⟨config, verbose, .analyze path format severity⟩)
    {code : Nat}
    (h : (Readings.of files (VariableFile.load assignments environment) config path format
      severity).FailsWith code) :
    run arguments environment assignments files = { exitCode := code, output := "" } := by
  generalize hreadings : Readings.of files (VariableFile.load assignments environment) config path
    format severity = readings at h
  cases h <;> simp only [Readings.of, Readings.mk.injEq] at hreadings <;>
    obtain ⟨hsettings, hformat, hminimum, hsnapshot⟩ := hreadings <;>
    simp only [run, asked, runInvocation, runCommand, loadSnapshot, hsettings, hformat, hminimum,
      hsnapshot] <;>
    rfl

/-- All readings succeed or one of them fails first. -/
theorem Readings.loaded_or_failsWith (readings : Readings) :
    (∃ settings shape minimum snapshot,
      readings = ⟨.ok settings, .ok shape, .ok minimum, .ok snapshot⟩) ∨
      ∃ code, readings.FailsWith code := by
  obtain ⟨_ | settings, format, minimum, snapshot⟩ := readings
  · exact .inr ⟨_, .settings⟩
  obtain _ | shape := format
  · exact .inr ⟨_, .format⟩
  obtain _ | minimum := minimum
  · exact .inr ⟨_, .minimum⟩
  obtain _ | snapshot := snapshot
  · exact .inr ⟨_, .snapshot⟩
  · exact .inl ⟨settings, shape, minimum, snapshot, rfl⟩

/-- An analysis exits with one for an error in its whole graph and with zero otherwise, whatever
part of the graph is printed. -/
theorem exitCode_analysisOutcome {graph : Graph} (sound : graph.Sound) (shape : ReportFormat)
    (minimum : Severity) :
    ((analysisOutcome graph shape minimum).exitCode = 1 ↔ graph.HasError) ∧
      ((analysisOutcome graph shape minimum).exitCode = 0 ↔ ¬ graph.HasError) := by
  rw [← sound.allValid_eq_false_iff, analysisOutcome]
  cases graph.allValid <;> simp

/-- When everything can be read, the program prints the filtered graph and exits with one if the
graph of the analysis has an error, else with zero. Otherwise it prints nothing and exits with the
code of the first thing that cannot be read. -/
theorem analyze_exit_status (arguments : List String) (environment : Environment)
    (assignments : Option StoredFile) (files : FileTree) (config : Option String) (verbose : Bool)
    (path format severity : String)
    (asked : readArguments arguments = .ok ⟨config, verbose, .analyze path format severity⟩) :
    let readings := Readings.of files (VariableFile.load assignments environment) config path format
      severity
    let outcome := run arguments environment assignments files
    ((∃ settings shape minimum snapshot,
      readings = ⟨.ok settings, .ok shape, .ok minimum, .ok snapshot⟩) ∨
        ∃ code, readings.FailsWith code) ∧
    (∀ settings shape minimum snapshot,
      readings = ⟨.ok settings, .ok shape, .ok minimum, .ok snapshot⟩ →
        let graph := settings.mesh.analyze snapshot
        (outcome.exitCode = 1 ↔ graph.HasError) ∧
        (outcome.exitCode = 0 ↔ ¬ graph.HasError) ∧
        (graph.HasError ↔ (graph.filterSeverity .error).isEmpty = false) ∧
        outcome.output = (graph.filterSeverity minimum).report.render shape ++ "\n") ∧
    (∀ code, readings.FailsWith code → outcome = { exitCode := code, output := "" }) ∧
    (∀ failure, readings.settings = .error failure → failure.exitCode = 78) ∧
    (∀ failure, readings.snapshot = .error failure →
      failure.exitCode = if ((files path).bind StoredFile.text?).isNone then 74 else 65) ∧
    ∀ works : List String,
      (∀ failure, (works.foldr Refusal.during (.failure failure)).exitCode = failure.exitCode) ∧
        ∀ word, (works.foldr Refusal.during (.word word)).exitCode = 1 := by
  intro readings outcome
  refine ⟨readings.loaded_or_failsWith, fun settings shape minimum snapshot h => ?_,
    fun code h => run_of_failsWith asked h, fun failure h => Settings.exitCode_of_load h,
    fun failure h => Snapshot.exitCode_of_ofFile h,
    fun works => ⟨fun failure => Refusal.exitCode_foldr_during works _,
      fun word => Refusal.exitCode_foldr_during works _⟩⟩
  have houtcome : outcome = analysisOutcome (settings.mesh.analyze snapshot) shape minimum :=
    run_of_loaded asked h
  obtain ⟨hone, hzero⟩ :=
    exitCode_analysisOutcome (settings.mesh.sound_analyze snapshot) shape minimum
  rw [houtcome]
  exact ⟨hone, hzero, Graph.hasError_iff_filterSeverity, rfl⟩

/-- A gateway that exposes a host twice makes the program exit with one, for an error in the graph
of the manifest, and a manifest that is not there with the code of a file that cannot be read. -/
theorem analyze_exit_status_overlap :
    let manifest := "kind: Gateway\nmetadata:\n  name: a\nspec:\n  servers:\n  - hosts: [b, b]\n"
    let files : FileTree := fun path => if path = "mesh.yaml" then some (.ofText manifest) else none
    let exit := fun path =>
      (run ["analyze", "--snapshot", path, "--min-severity", "error"] [] none files).exitCode
    exit "absent.yaml" = 74 ∧ exit "mesh.yaml" = 1 ∧
      ∃ snapshot, Snapshot.ofFile "mesh.yaml" ((files "mesh.yaml").bind StoredFile.text?) =
        .ok snapshot ∧ (MeshSettings.analyze {} snapshot).HasError := by
  intro manifest files exit
  have hsettings : Settings.load files [] none = .ok {} := rfl
  have hformat : ReportFormat.ofWord "json" = .ok .json := rfl
  have hminimum : Severity.ofWord "error" = .ok .error := Severity.ofWord_label .error
  have hreadings : ∀ path, Readings.of files (VariableFile.load none []) none path "json" "error" =
      ⟨.ok {}, .ok .json, .ok .error,
        Snapshot.ofFile path ((files path).bind StoredFile.text?)⟩ := by
    intro path
    simp only [Readings.of, hformat, hminimum]
    rw [← hsettings]
    rfl
  obtain ⟨-, -, hfails, -⟩ := analyze_exit_status
    ["analyze", "--snapshot", "absent.yaml", "--min-severity", "error"] [] none files none false
    "absent.yaml" "json" "error" rfl
  obtain ⟨-, hloaded, hfailsMesh, -, hcontent, -⟩ := analyze_exit_status
    ["analyze", "--snapshot", "mesh.yaml", "--min-severity", "error"] [] none files none false
    "mesh.yaml" "json" "error" rfl
  have habsent : exit "absent.yaml" = 74 := congrArg Outcome.exitCode (hfails 74 (by
    rw [hreadings]
    exact .snapshot))
  have hone : exit "mesh.yaml" = 1 := by decide +kernel
  refine ⟨habsent, hone, ?_⟩
  cases hsnapshot : Snapshot.ofFile "mesh.yaml" ((files "mesh.yaml").bind StoredFile.text?) with
  | error failure =>
    -- a manifest that cannot be loaded would have another exit code
    have hcode : exit "mesh.yaml" = failure.exitCode :=
      congrArg Outcome.exitCode (hfailsMesh _ (by
        rw [hreadings, hsnapshot]
        exact .snapshot))
    have hother := hcontent failure hsnapshot
    rw [← hcode, hone] at hother
    split at hother <;> cases hother
  | ok snapshot =>
    have hall := (hreadings "mesh.yaml").trans (by rw [hsnapshot])
    exact ⟨snapshot, rfl, (hloaded {} .json .error snapshot hall).1.1 hone⟩

end CommandLine

end MeshAudit

import MeshAudit.CommandLine.Command
import MeshAudit.Report.Format
import MeshAudit.Settings.Load
import MeshAudit.Settings.VariableFile
import MeshAudit.Snapshot.Manifest

/-!
# Running the program

The program loads its settings, reads the words for format and severity, loads the manifest, and
prints a report. The first of these that fails decides its exit code. An analysis that finds an
error exits with one, whatever part of the findings is printed.
-/

namespace MeshAudit.CommandLine

/-- What the caller of the program gets. -/
structure Outcome where
  /-- The exit code. -/
  exitCode : Nat
  /-- What is printed. -/
  output : String := ""
  deriving DecidableEq, Repr

/-- Why a command cannot be carried out. -/
inductive Refusal where
  /-- Settings or objects cannot be read. -/
  | failure (cause : Failure)
  /-- A word of the command has no meaning. -/
  | word (word : UnknownWord)
  /-- The command was refused while something was being done. -/
  | during (work : String) (cause : Refusal)
  deriving DecidableEq, Repr

/-- Exit code after a command that cannot be carried out: a failure has its own, whatever was being
done, and a word without meaning exits with one. -/
def Refusal.exitCode : Refusal → Nat
  | .failure cause => cause.exitCode
  | .word _ => 1
  | .during _ cause => cause.exitCode

/-- A result whose failure refuses the command, with what was being done. -/
def orRefuse {α : Type} (work : String) (result : Except Failure α) : Except Refusal α :=
  result.mapError fun cause => .during work (.failure cause)

/-- A word whose meaning the command needs. -/
def meaning {α : Type} (result : Except UnknownWord α) : Except Refusal α :=
  result.mapError Refusal.word

/-- A printed report. -/
def printed (report : ReportTree) (format : ReportFormat) : String := report.render format ++ "\n"

/-- The outcome of an analysis: what is printed is filtered, and what the exit code says is not. -/
def analysisOutcome (graph : Graph) (format : ReportFormat) (minimum : Severity) : Outcome :=
  { exitCode := if graph.allValid then 0 else 1
    output := printed (graph.filterSeverity minimum).report format }

/-- Load the manifest at a path. -/
def loadSnapshot (files : FileTree) (path : String) : Except Refusal Snapshot :=
  orRefuse ("Failed to load snapshot " ++ path)
    (Snapshot.ofFile path ((files path).bind StoredFile.text?))

/-- Carry out a command. -/
def runCommand (files : FileTree) (settings : MeshSettings) : Command → Except Refusal Outcome
  | .analyze path format severity => do
    let format ← meaning (ReportFormat.ofWord format)
    let minimum ← meaning (Severity.ofWord severity)
    let snapshot ← loadSnapshot files path
    return analysisOutcome (settings.analyze snapshot) format minimum
  | .mtlsStatus path format ns => do
    let format ← meaning (ReportFormat.ofWord format)
    let snapshot ← loadSnapshot files path
    return { exitCode := 0, output := printed (settings.mtlsReport snapshot ns).report format }

/-- Carry out an invocation: settings first. -/
def runInvocation (files : FileTree) (environment : Environment) (invocation : Invocation) :
    Except Refusal Outcome := do
  let settings ← orRefuse "Failed to load configuration"
    (Settings.load files environment invocation.settings)
  runCommand files settings.mesh invocation.command

/-- The outcome of arguments that are no command to run. -/
def Stop.outcome : Stop → Outcome
  | help => { exitCode := 0 }
  | version => { exitCode := 0, output := "meshlint 0.1.0\n" }
  | misuse => { exitCode := 2 }

/-- Run the program with arguments, an environment, a file of variables and the other files. -/
def run (arguments : List String) (environment : Environment) (assignments : Option StoredFile)
    (files : FileTree) : Outcome :=
  match readArguments arguments with
  | .error stop => stop.outcome
  | .ok invocation =>
    match runInvocation files (VariableFile.load assignments environment) invocation with
    | .ok outcome => outcome
    | .error refusal => { exitCode := refusal.exitCode }

/-- The paths at which an invocation may need a file. -/
def Invocation.paths (invocation : Invocation) : List String :=
  let endings := LayerFormat.extensions.map Prod.fst
  invocation.command.snapshot ::
    invocation.settings.toList.flatMap fun path =>
      path :: endings.map fun ending => path ++ "." ++ ending

end MeshAudit.CommandLine

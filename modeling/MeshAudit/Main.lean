import MeshAudit.CommandLine.Run

/-!
# The program

Everything that touches the outside: arguments, environment, files and standard output. What is done
with them is decided by `CommandLine.run`.
-/

namespace MeshAudit.CommandLine

/-- The file at a path, if it can be read. -/
def readFile? (path : String) : IO (Option StoredFile) := do
  try
    let bytes ← IO.FS.readBinFile path
    return some ⟨bytes.toList⟩
  catch _ => return none

/-- The first file of a list of paths that can be read. -/
def readFirst? : List String → IO (Option StoredFile)
  | [] => return none
  | path :: rest => do
    match ← readFile? path with
    | some file => return some file
    | none => readFirst? rest

/-- The files at some paths. -/
def readFiles (paths : List String) : IO FileTree := do
  let found ← paths.mapM fun path => return (path, ← readFile? path)
  return fun path => (found.lookup path).join

/-- The assignments of bytes that are separated by zeros. -/
def variablesOf (bytes : List UInt8) : Environment :=
  ((String.ofList (Text.decode bytes)).splitOn "\x00").filterMap fun assignment =>
    match assignment.toList.span (· ≠ '=') with
    | (name, _ :: text) => some (String.ofList name, String.ofList text)
    | _ => none

/-- The environment of the process. -/
def readEnvironment : IO Environment := do
  match ← readFile? "/proc/self/environ" with
  | some file => return variablesOf file.bytes
  | none => return []

/-- Where a file of variables is looked for: the working directory and those around it. -/
def variablePaths : List String :=
  (List.range 64).map fun up => String.join (List.replicate up "../") ++ ".env"

/-- The files that arguments may need. -/
def filesFor (arguments : List String) : IO FileTree :=
  match readArguments arguments with
  | .ok invocation => readFiles invocation.paths
  | .error _ => return fun _ => none

/-- Run the program in its process, and answer with its exit code. -/
def runProcess (arguments : List String) : IO UInt32 := do
  let environment ← readEnvironment
  let assignments ← readFirst? variablePaths
  let outcome := run arguments environment assignments (← filesFor arguments)
  IO.print outcome.output
  return outcome.exitCode.toUInt32

end MeshAudit.CommandLine

/-- Run the program and exit with its code. -/
def main (arguments : List String) : IO UInt32 :=
  MeshAudit.CommandLine.runProcess arguments

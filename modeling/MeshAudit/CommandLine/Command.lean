import MeshAudit.CommandLine.Arguments

/-!
# Commands

The program analyses a manifest, or tells the mTLS status of a namespace of it. Where the settings
come from may be said before or after the name of the subcommand, and what is said after it counts.
-/

namespace MeshAudit.CommandLine

/-- What the program is asked to do. -/
inductive Command where
  /-- Print the findings about a manifest from a severity on. -/
  | analyze (snapshot format severity : String)
  /-- Print the mTLS status of a namespace of a manifest. -/
  | mtlsStatus (snapshot format ns : String)
  deriving DecidableEq, Repr

/-- A command with what applies to all commands. -/
structure Invocation where
  /-- Path of the file of settings. -/
  settings : Option String
  /-- Whether to tell more about the work. -/
  verbose : Bool
  /-- What to do. -/
  command : Command
  deriving DecidableEq, Repr

/-- The options of all commands. -/
def sharedOptions : List OptionSpec :=
  [⟨"config", none, .path⟩, ⟨"verbose", some 'v', .flag⟩, ⟨"help", some 'h', .help⟩]

/-- The program itself. -/
def program : CommandSpec :=
  { options := sharedOptions ++ [⟨"version", some 'V', .version⟩]
    subcommands := ["analyze", "mtls-status", "help"] }

/-- The subcommand that prints findings. -/
def analyzeSpec : CommandSpec :=
  { options := sharedOptions ++ [⟨"snapshot", none, .path⟩, ⟨"output", some 'o', .text⟩,
      ⟨"min-severity", none, .text⟩] }

/-- The subcommand that prints a status. -/
def mtlsStatusSpec : CommandSpec :=
  { options := sharedOptions ++ [⟨"snapshot", none, .path⟩, ⟨"namespace", none, .text⟩,
      ⟨"output", some 'o', .text⟩] }

/-- The value of an option that must be given. -/
def required (given : Given) (name : String) : Except Stop String :=
  match given.lookup name with
  | some value => .ok value
  | none => .error .misuse

/-- The format that is asked for, or the usual one. -/
def outputWord (given : Given) : String := (given.lookup "output").getD "json"

/-- A subcommand with its options. -/
def commandOf (name : String) (given : Given) : Except Stop Command := do
  if name = "analyze" then
    let snapshot ← required given "snapshot"
    return .analyze snapshot (outputWord given) ((given.lookup "min-severity").getD "warning")
  else
    let snapshot ← required given "snapshot"
    let ns ← required given "namespace"
    return .mtlsStatus snapshot (outputWord given) ns

/-- The answer to a question for help on nothing or on one subcommand. -/
def helpOn (arguments : List String) : Stop :=
  match arguments with
  | [] => .help
  | [name] => if program.subcommands.contains name then .help else .misuse
  | _ => .misuse

/-- Read the arguments of the program. -/
def readArguments (arguments : List String) : Except Stop Invocation := do
  let (shared, subcommand) ← program.take [] none arguments
  match subcommand with
  | none => .error .misuse
  | some ("help", rest) => .error (helpOn rest)
  | some (name, rest) =>
    let spec := if name = "analyze" then analyzeSpec else mtlsStatusSpec
    let (given, _) ← spec.take [] none rest
    let command ← commandOf name given
    return {
      settings := (given.lookup "config").or (shared.lookup "config")
      verbose := (given.lookup "verbose").isSome || (shared.lookup "verbose").isSome
      command := command }

/-- The path of the manifest of a command. -/
def Command.snapshot : Command → String
  | analyze snapshot _ _ => snapshot
  | mtlsStatus snapshot _ _ => snapshot

end MeshAudit.CommandLine

/-!
# Arguments

Arguments of a command are options and the name of a subcommand. An option has a long name after two
hyphens, and may have a letter after one. Its value is attached or follows as the next argument;
letters of options without values may share a hyphen.
-/

namespace MeshAudit.CommandLine

/-- What an option asks for. -/
inductive OptionKind where
  /-- A text. -/
  | text
  /-- A path, which is not empty. -/
  | path
  /-- Nothing but that it is given. -/
  | flag
  /-- To be told about the command instead of running it. -/
  | help
  /-- To be told the version instead of running anything. -/
  | version
  deriving DecidableEq, Repr

/-- An option of a command. -/
structure OptionSpec where
  /-- Its name. -/
  name : String
  /-- Its letter. -/
  letter : Option Char := none
  /-- What it asks for. -/
  kind : OptionKind
  deriving DecidableEq, Repr

/-- A command with options and subcommands. -/
structure CommandSpec where
  /-- The options. -/
  options : List OptionSpec
  /-- Names of the subcommands. -/
  subcommands : List String := []

/-- Why arguments are not a command to run. -/
inductive Stop where
  /-- They ask to be told about a command. -/
  | help
  /-- They ask for the version. -/
  | version
  /-- They are wrong. -/
  | misuse
  deriving DecidableEq, Repr

/-- Values of the options that are given, by name. -/
abbrev Given := List (String × String)

namespace OptionSpec

/-- Whether the option has a value. -/
def hasValue (option : OptionSpec) : Bool := option.kind = .text || option.kind = .path

/-- Add a value of the option, which is given once at most. -/
def give (option : OptionSpec) (value : String) (given : Given) : Except Stop Given :=
  if (given.lookup option.name).isSome ∨ (option.kind = .path ∧ value = "") then .error .misuse
  else .ok ((option.name, value) :: given)

/-- Take an option that has no value. -/
def takeBare (option : OptionSpec) (given : Given) : Except Stop Given :=
  match option.kind with
  | .help => .error .help
  | .version => .error .version
  | _ => option.give "" given

end OptionSpec

/-- A text without an equals sign at its start. -/
def withoutEquals : List Char → List Char
  | '=' :: rest => rest
  | cs => cs

namespace CommandSpec

/-- Take options by their letters; the last may have a value, attached or still to come. -/
def takeLetters (command : CommandSpec) (given : Given) :
    List Char → Except Stop (Given × Option OptionSpec)
  | [] => .ok (given, none)
  | c :: rest =>
    match command.options.find? fun option => option.letter = some c with
    | none => .error .misuse
    | some option =>
      if option.hasValue then
        if rest.isEmpty then .ok (given, some option)
        else do
          let given ← option.give (String.ofList (withoutEquals rest)) given
          return (given, none)
      else do
        let given ← option.takeBare given
        command.takeLetters given rest

/-- Take an option by its name, given without the hyphens, where a value may be attached. -/
def takeName (command : CommandSpec) (given : Given) (cs : List Char) :
    Except Stop (Given × Option OptionSpec) :=
  let (name, attached) := cs.span (· ≠ '=')
  match command.options.find? fun option => option.name = String.ofList name with
  | none => .error .misuse
  | some option =>
    match option.hasValue, attached with
    | true, [] => .ok (given, some option)
    | true, attached => do
      let given ← option.give (String.ofList (attached.drop 1)) given
      return (given, none)
    | false, [] => do
      let given ← option.takeBare given
      return (given, none)
    | false, _ => .error .misuse

/-- Take the arguments of a command up to its subcommand, whose name is answered with the arguments
after it. One option may be waiting for its value. -/
def take (command : CommandSpec) (given : Given) (waiting : Option OptionSpec) :
    List String → Except Stop (Given × Option (String × List String))
  | [] => if waiting.isSome then .error .misuse else .ok (given, none)
  | argument :: rest =>
    match argument.toList, waiting with
    | ['-', '-'], waiting =>
      if waiting.isSome ∨ !rest.isEmpty then .error .misuse else .ok (given, none)
    | '-' :: '-' :: cs, none => do
      let (given, waiting) ← command.takeName given cs
      command.take given waiting rest
    | '-' :: c :: cs, none => do
      let (given, waiting) ← command.takeLetters given (c :: cs)
      command.take given waiting rest
    | '-' :: _ :: _, some _ => .error .misuse
    | _, some option => do
      let given ← option.give argument given
      command.take given none rest
    | _, none =>
      if command.subcommands.contains argument then .ok (given, some (argument, rest))
      else .error .misuse

end CommandSpec

end MeshAudit.CommandLine

import MeshAudit.Files
import MeshAudit.Settings.Environment
import MeshAudit.Text.Blank

/-!
# Files of variables

A file of variables adds to the environment what is not set there. It has an assignment on each
line; a quoted value may go on over several lines, and a value may refer to other variables. At the
first line that is wrong the rest of the file is ignored.
-/

namespace MeshAudit.VariableFile

/-- What a place in a file is inside of. -/
inductive Inside where
  /-- A word. -/
  | word
  /-- The blanks after a word. -/
  | blanks
  /-- An escape outside of quotes. -/
  | escape
  /-- Single quotes. -/
  | single
  /-- An escape between single quotes. -/
  | singleEscape
  /-- Double quotes. -/
  | double
  /-- An escape between double quotes. -/
  | doubleEscape
  deriving DecidableEq, Repr

/-- What the place after a character outside of quotes is inside of. -/
def Inside.outsideQuotes (c : Char) : Inside :=
  if c = '\\' then .escape else if c = '"' then .double else if c = '\'' then .single else .word

/-- What the place after a character is inside of; a comment is nothing to go on with. -/
def Inside.after? (inside : Inside) (c : Char) : Option Inside :=
  match inside with
  | .word =>
    some (if Text.isBlank c ∧ c ≠ '\n' ∧ c ≠ '\r' then .blanks else outsideQuotes c)
  | .blanks => if c = '#' then none else some (outsideQuotes c)
  | .escape => some .word
  | .single => some (if c = '\\' then .singleEscape else if c = '\'' then .word else .single)
  | .singleEscape => some .single
  | .double => some (if c = '\\' then .doubleEscape else if c = '"' then .word else .double)
  | .doubleEscape => some .double

/-- Go over a line, collecting it in reverse up to a comment. After a comment nothing goes on. -/
def scanLine (inside : Inside) (done : List Char) : List Char → List Char × Inside
  | [] => (done, inside)
  | c :: rest =>
    match inside.after? c with
    | some inside => scanLine inside (c :: done) rest
    | none => (done, .word)

/-- The assignments of lines, in which a line that is no text stands for an error. The first
arguments are an assignment that goes on, in reverse, and what its end is inside of. -/
def assignments (done : List Char) (inside : Inside) :
    List (Option (List Char)) → List (Option (List Char))
  | [] => if inside = .word then [] else [none]
  | none :: _ => [none]
  | some line :: rest =>
    if ((done.reverse ++ line).dropWhile Text.isBlank).head? = some '#' then
      assignments [] .word rest
    else
      match scanLine inside done line with
      | (done, .word) => some done.reverse :: assignments [] .word rest
      | (done, inside) => assignments done inside rest

/-- The lines of bytes with their line feeds, where the current line is given in reverse. -/
def splitLines (line : List UInt8) : List UInt8 → List (List UInt8)
  | [] => if line.isEmpty then [] else [line.reverse]
  | b :: rest =>
    if b = 0x0A then (b :: line).reverse :: splitLines [] rest else splitLines (b :: line) rest

/-- The bytes without the mark of their order. -/
def withoutMark : List UInt8 → List UInt8
  | 0xEF :: 0xBB :: 0xBF :: rest => rest
  | bytes => bytes

/-- The assignments of a file. -/
def assignmentsOf (bytes : List UInt8) : List (Option (List Char)) :=
  assignments [] .word ((splitLines [] (withoutMark bytes)).map fun line =>
    (String.fromUTF8? ⟨line.toArray⟩).map String.toList)

/-- How the name of a variable is being read inside of a value. -/
inductive Reference where
  /-- Not at all. -/
  | none
  /-- After a dollar sign. -/
  | bare
  /-- Between braces. -/
  | braced
  deriving DecidableEq, Repr

/-- A value that is being read. -/
structure Reading where
  /-- Its text so far, last character first. -/
  done : List Char := []
  /-- Whether the place is between single quotes. -/
  single : Bool := false
  /-- Whether the place is between double quotes. -/
  double : Bool := false
  /-- Whether a backslash comes before. -/
  escaped : Bool := false
  /-- Whether nothing but a comment may follow. -/
  ended : Bool := false
  /-- How the name of a variable is being read. -/
  reference : Reference := .none
  /-- That name so far, last character first. -/
  name : List Char := []

/-- The characters for which a character after a backslash may stand. -/
def escaped? (c : Char) : Option Char :=
  if "\\'\"$ ".toList.contains c then some c else if c = 'n' then some '\n' else none

/-- Whether a character may stand in a name after a dollar sign; letters are those of ASCII. -/
def isNameChar (c : Char) : Bool := c.isAlphanum

namespace Reading

/-- Put the value of the variable in the place of its name. -/
def substitute (value : String → String) (r : Reading) : Reading :=
  { r with
    done := (value (String.ofList r.name.reverse)).toList.reverse ++ r.done
    reference := .none
    name := [] }

/-- Take in a character of a reference to a variable. -/
def refer (value : String → String) (r : Reading) (c : Char) : Reading :=
  if isNameChar c then { r with name := c :: r.name }
  else if r.reference = .braced then
    if c = '}' then r.substitute value else { r with name := c :: r.name }
  else if c = '{' ∧ r.name.isEmpty then { r with reference := .braced }
  else
    let r := r.substitute value
    if c = '$' then { r with reference := .bare } else { r with done := c :: r.done }

/-- Take in a character that is not inside of anything special. -/
def plain (r : Reading) (c : Char) : Reading :=
  if c = '$' then { r with reference := .bare }
  else if c = '\\' then { r with escaped := true }
  else if r.double then
    if c = '"' then { r with double := false } else { r with done := c :: r.done }
  else if c = '\'' then { r with single := true }
  else if c = '"' then { r with double := true }
  else if c = ' ' ∨ c = '\t' then { r with ended := true }
  else { r with done := c :: r.done }

end Reading

/-- Read a value, where variables have the given values. -/
def readValue? (value : String → String) (r : Reading) : List Char → Option String
  | [] =>
    if r.reference = .braced ∨ r.single ∨ r.double then none
    else some (String.ofList (r.substitute value).done.reverse)
  | c :: rest =>
    if r.ended then
      if c = ' ' ∨ c = '\t' then readValue? value r rest
      else if c = '#' then readValue? value r []
      else none
    else if r.escaped then
      match escaped? c with
      | some c => readValue? value { r with done := c :: r.done, escaped := false } rest
      | none => none
    else if r.single then
      if c = '\'' then readValue? value { r with single := false } rest
      else readValue? value { r with done := c :: r.done } rest
    else if r.reference ≠ .none then readValue? value (r.refer value c) rest
    else readValue? value (r.plain c) rest

/-- Read the name of a variable. -/
def readName? (cs : List Char) : Option (String × List Char) :=
  match cs with
  | c :: _ =>
    if c.isAlpha ∨ c = '_' then
      let (name, rest) := cs.span fun c => c.isAlphanum || c = '_' || c = '.'
      some (String.ofList name, rest.dropWhile Text.isBlank)
    else none
  | [] => none

/-- What follows the sign between a name and its value. -/
def afterEquals? : List Char → Option (List Char)
  | '=' :: rest => some rest
  | _ => none

/-- Read a name and what follows the sign after it. The word `export` may come before the name. -/
def readTarget? (cs : List Char) : Option (String × List Char) := do
  let (name, rest) ← readName? cs
  match afterEquals? rest with
  | some rest => some (name, rest)
  | none =>
    if name = "export" then
      let (name, rest) ← readName? rest
      some (name, ← afterEquals? rest)
    else none

/-- Read an assignment of a name and a value; a line may have none. -/
def readAssignment? (value : String → String) (line : List Char) :
    Option (Option (String × String)) :=
  match (Text.trimEnd line).dropWhile Text.isBlank with
  | [] => some none
  | '#' :: _ => some none
  | cs => do
    let (name, rest) ← readTarget? cs
    match rest.dropWhile Text.isBlank with
    | [] => some (some (name, ""))
    | '#' :: _ => some (some (name, ""))
    | cs =>
      let text ← readValue? value {} cs
      some (some (name, text))

/-- The value of a variable: that of the environment, else the last one assigned. -/
def valueOf (environment : Environment) (assigned : List (String × String)) (name : String) :
    String :=
  ((environment.lookup name).or (assigned.lookup name)).getD ""

/-- Add assignments to an environment, given what has been assigned before. -/
def extend (environment : Environment) (assigned : List (String × String)) :
    List (Option (List Char)) → Environment
  | [] => environment
  | none :: _ => environment
  | some line :: rest =>
    match readAssignment? (valueOf environment assigned) line with
    | none => environment
    | some none => extend environment assigned rest
    | some (some (name, text)) =>
      let extended :=
        if (environment.lookup name).isSome then environment else environment ++ [(name, text)]
      extend extended ((name, text) :: assigned) rest

/-- The environment with what a file of variables adds. -/
def load (file : Option StoredFile) (environment : Environment) : Environment :=
  match file with
  | some file => extend environment [] (assignmentsOf file.bytes)
  | none => environment

end MeshAudit.VariableFile

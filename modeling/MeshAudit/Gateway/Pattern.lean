/-!
# Host name patterns as regular expressions

A host name pattern can be written as a regular expression: anchored at both ends of the text, with
a run of any characters but a line break for each star, and with every other character escaped where
it would mean something else. Of regular expressions only these four means are described.
-/

namespace MeshAudit

namespace Regex

/-- A step of a regular expression. -/
inductive Step where
  /-- To be at the start of the text. -/
  | textStart
  /-- To be at the end of the text. -/
  | textEnd
  /-- Over one character. -/
  | char (c : Char)
  /-- Over any number of characters without a line break. -/
  | anyRun
  deriving DecidableEq, Repr

/-- Characters that mean something else than themselves. -/
def metaChars : List Char :=
  ['\\', '.', '+', '*', '?', '(', ')', '|', '[', ']', '{', '}', '^', '$', '#', '&', '-', '~']

/-- A text written so that it means itself. -/
def escape (text : List Char) : List Char :=
  text.flatMap fun c => if c ∈ metaChars then ['\\', c] else [c]

/-- The steps of a regular expression that is written with anchors, runs of any characters, and
characters that mean themselves. -/
def read? : List Char → Option (List Step)
  | [] => some []
  | '\\' :: c :: rest =>
    if c ∈ metaChars then (read? rest).map fun steps => .char c :: steps else none
  | '.' :: '*' :: rest => (read? rest).map fun steps => .anyRun :: steps
  | '^' :: rest => (read? rest).map fun steps => .textStart :: steps
  | '$' :: rest => (read? rest).map fun steps => .textEnd :: steps
  | c :: rest =>
    if c ∈ metaChars then none else (read? rest).map fun steps => .char c :: steps

/-- Steps can be taken from a place of a text, given what stands before and after the place. -/
inductive Leads : List Step → List Char → List Char → Prop where
  /-- No step is left. -/
  | done {before after : List Char} : Leads [] before after
  /-- The place is the start of the text. -/
  | textStart {steps : List Step} {after : List Char} (rest : Leads steps [] after) :
    Leads (.textStart :: steps) [] after
  /-- The place is the end of the text. -/
  | textEnd {steps : List Step} {before : List Char} (rest : Leads steps before []) :
    Leads (.textEnd :: steps) before []
  /-- The character comes next. -/
  | char {steps : List Step} {c : Char} {before after : List Char}
      (rest : Leads steps (before ++ [c]) after) :
    Leads (.char c :: steps) before (c :: after)
  /-- A run comes next that goes up to some later place. -/
  | anyRun {steps : List Step} {run before after : List Char} (hrun : '\n' ∉ run)
      (rest : Leads steps (before ++ run) after) :
    Leads (.anyRun :: steps) before (run ++ after)

/-- The steps of a regular expression can be taken from some place of a text. -/
def IsFound (steps : List Step) (text : List Char) : Prop :=
  ∃ before after, text = before ++ after ∧ Leads steps before after

end Regex

/-- The regular expression of a host name pattern. -/
def hostPattern (hostname : String) : String :=
  let parts := (hostname.toList.splitOn '*').map fun part => String.ofList (Regex.escape part)
  "^" ++ String.intercalate ".*" parts ++ "$"

end MeshAudit

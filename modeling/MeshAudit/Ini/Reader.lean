import MeshAudit.Document.Value
import MeshAudit.Text.Blank

/-!
# Reading INI

A text has sections with keys, and each key has a text for its value. Keys before the first section
belong to no section.
-/

namespace MeshAudit.Ini

/-- The keys of a section with their values. -/
abbrev Fields := List (String × Value)

/-- What has been read of a text. -/
structure Reading where
  /-- Keys without a section, and complete sections. -/
  done : Fields := []
  /-- Name of the current section. -/
  heading? : Option String := none
  /-- Keys of the current section. -/
  fields : Fields := []

/-- The keys without a section, and all sections. -/
def Reading.all (reading : Reading) : Fields :=
  match reading.heading? with
  | none => reading.done ++ reading.fields
  | some name => reading.done ++ [(name, .ofFields reading.fields)]

/-- The characters for which an escape stands, and how many it takes after the backslash. An escaped
line feed stands for nothing. -/
def escape? : List Char → Option (List Char × Nat)
  | [] => none
  | '0' :: _ => some (['\x00'], 1)
  | 'a' :: _ => some (['\x07'], 1)
  | 'b' :: _ => some (['\x08'], 1)
  | 't' :: _ => some (['\t'], 1)
  | 'r' :: _ => some (['\r'], 1)
  | 'n' :: _ => some (['\n'], 1)
  | '\n' :: _ => some ([], 1)
  | 'x' :: rest => do
    let n ← Text.readDigits? 16 (rest.take 4)
    if (rest.take 4).length = 4 ∧ n.isValidChar then some ([Char.ofNat n], 5) else none
  | c :: _ => some ([c], 1)

/-- Read up to a character of a kind, which is left, collecting in reverse. The text may end there
only if that is allowed. -/
def readUntil? (ends : Char → Bool) (mayEnd : Bool) (done : List Char) :
    List Char → Option (List Char × List Char)
  | [] => if mayEnd then some (done.reverse, []) else none
  | c :: rest =>
    if ends c then some (done.reverse, c :: rest)
    else if c = '\\' then
      match escape? rest with
      | some (cs, width) => readUntil? ends mayEnd (cs ++ done) (rest.drop width)
      | none => none
    else readUntil? ends mayEnd (c :: done) rest
termination_by cs => cs.length
decreasing_by all_goals (simp only [List.length_drop, List.length_cons]; omega)

/-- Whether a character ends a line. -/
def isLineEnd (c : Char) : Bool := c = '\n' || c = '\r'

/-- Read a value: quoted parts and then the rest of the line, in at most as many steps as the first
argument. -/
def readValue? : Nat → Bool → List Char → List Char → Option (String × List Char)
  | 0, _, _, _ => none
  | steps + 1, first, done, cs =>
    match cs with
    | [] => some (String.ofList done, [])
    | c :: rest =>
      if c = '"' ∨ c = '\'' then do
        let (part, rest) ← readUntil? (· = c) false [] rest
        readValue? steps false (done ++ part) (rest.drop 1)
      else do
        let (part, rest) ← readUntil? isLineEnd true [] cs
        let part := if first then Text.trim part else Text.trimEnd part
        some (String.ofList (done ++ part), rest)

/-- Read a text from a place that is or is not the start of a line, in at most as many steps as the
first argument. Comments take whole lines. -/
def readFrom? : Nat → Reading → Bool → List Char → Option Reading
  | 0, _, _, _ => none
  | steps + 1, reading, atStart, cs =>
    match cs with
    | [] => some reading
    | c :: rest =>
      if Text.isBlank c then readFrom? steps reading (c = '\n') rest
      else if c = ';' ∨ c = '#' then
        if atStart then readFrom? steps reading true ((rest.dropWhile (· ≠ '\n')).drop 1)
        else none
      else if c = '[' then do
        let (name, rest) ← readUntil? (· = ']') false [] rest
        let name := String.ofList (Text.trim name)
        readFrom? steps { done := reading.all, heading? := some name } false (rest.drop 1)
      else if c = '=' ∨ c = ':' then none
      else do
        let (key, rest) ← readUntil? (fun c => c = '=' || c = ':') false [] cs
        let rest := (rest.drop 1).dropWhile fun c => Text.isBlank c && !isLineEnd c
        let (value, rest) ← readValue? (rest.length + 1) true [] rest
        let field := (String.ofList (Text.trim key), Value.string value)
        readFrom? steps { reading with fields := reading.fields ++ [field] } false rest

/-- The object of the keys and sections of a text, where the last of a name counts. Every step takes
a character at least. -/
def read? (text : String) : Option Value :=
  (readFrom? (text.length + 1) {} true text.toList).map fun reading => .ofFields reading.all

end MeshAudit.Ini

import MeshAudit.Toml.Scalar
import MeshAudit.Toml.Table
import MeshAudit.Toml.Text

/-!
# Reading TOML

A text is a sequence of lines, each with a header of a table or with a key and its value. Values in
brackets may go on over several lines.
-/

namespace MeshAudit.Toml

/-- A text without the blanks at its start. -/
def dropBlanks (cs : List Char) : List Char := cs.dropWhile isBlank

/-- The lines after the current one, of which only blanks and a comment may be left. -/
def finishLine? (cs : List Char) : Option (List Char) :=
  let cs := dropBlanks cs
  let cs := if cs.head? = some '#' then cs.dropWhile isInline else cs
  if cs.isEmpty then some [] else afterLineEnd? cs

/-- A text without the blanks, comments and line ends at its start, of which there are at most as
many as the first argument. -/
def dropSpacing : Nat → List Char → List Char
  | 0, cs => cs
  | count + 1, cs =>
    match finishLine? cs with
    | some [] => []
    | some rest => dropSpacing count rest
    | none => dropBlanks cs

/-- Characters of keys without quotes. -/
def isKeyChar (c : Char) : Bool := c.isAlphanum || c = '_' || c = '-'

/-- Read one part of a key. Texts of several lines are no keys. -/
def readKeyPart? (cs : List Char) : Option (String × List Char) :=
  match cs with
  | '"' :: rest => readLine? '"' [] rest
  | '\'' :: rest => readLine? '\'' [] rest
  | cs =>
    let (name, rest) := cs.span isKeyChar
    if name.isEmpty then none else some (String.ofList name, rest)

/-- Read a key of at most as many parts as the first argument, with points between them. -/
def readKey? : Nat → List Char → Option (List String × List Char)
  | 0, _ => none
  | count + 1, cs => do
    let (part, rest) ← readKeyPart? (dropBlanks cs)
    match dropBlanks rest with
    | '.' :: rest =>
      let (parts, rest) ← readKey? count rest
      some (part :: parts, rest)
    | rest => some ([part], rest)

mutual

/-- Read a value. -/
def readValue? : Nat → List Char → Option (Value × List Char)
  | 0, _ => none
  | depth + 1, cs =>
    match cs with
    | '[' :: rest => do
      let (items, rest) ← readItems? depth rest
      some (.array items, rest)
    | '{' :: rest => do
      let (table, rest) ← readFields? [] depth rest
      some (.ofFields (fieldValues table), rest)
    | '"' :: _ => (readText? cs).map fun r => (.string r.1, r.2)
    | '\'' :: _ => (readText? cs).map fun r => (.string r.1, r.2)
    | cs => readScalar? cs

/-- Read the items of a list up to its closing bracket. -/
def readItems? : Nat → List Char → Option (List Value × List Char)
  | 0, _ => none
  | depth + 1, cs =>
    match dropSpacing cs.length cs with
    | ']' :: rest => some ([], rest)
    | cs => do
      let (item, rest) ← readValue? depth cs
      match dropSpacing rest.length rest with
      | ',' :: rest =>
        let (items, rest) ← readItems? depth rest
        some (item :: items, rest)
      | ']' :: rest => some ([item], rest)
      | _ => none

/-- Read the fields of a table in braces up to the closing one, in addition to some. -/
def readFields? (table : Table) : Nat → List Char → Option (Table × List Char)
  | 0, _ => none
  | depth + 1, cs =>
    match dropBlanks cs with
    | '}' :: rest => if table.isEmpty then some ([], rest) else none
    | cs => do
      let (key, rest) ← readKey? cs.length cs
      let rest ← take? '=' rest
      let (value, rest) ← readValue? depth (dropBlanks rest)
      let table ← table.put? value key
      match dropBlanks rest with
      | ',' :: rest => readFields? table depth rest
      | '}' :: rest => some (table, rest)
      | _ => none

end

/-- What has been read of a text. -/
structure Reading where
  /-- All keys. -/
  root : Table := []
  /-- Where the keys of the next lines belong. -/
  path : List String := []

/-- Read a header of a table after its opening bracket. -/
def readHeader? (reading : Reading) (cs : List Char) : Option (Reading × List Char) := do
  let several := cs.head? = some '['
  let (key, rest) ← readKey? cs.length (if several then cs.drop 1 else cs)
  let rest ← take? ']' rest
  let rest ← if several then take? ']' rest else some rest
  let name ← key.getLast?
  let change := if several then Table.beginNext? name else Table.begin? name
  let root ← reading.root.changeAt? change key.dropLast
  some ({ root := root, path := key }, rest)

/-- Read a key and its value. -/
def readField? (reading : Reading) (cs : List Char) : Option (Reading × List Char) := do
  let (key, rest) ← readKey? cs.length cs
  let rest ← take? '=' rest
  let (value, rest) ← readValue? rest.length (dropBlanks rest)
  let root ← reading.root.changeAt? (Table.put? value key) reading.path
  some ({ reading with root := root }, rest)

/-- Read the lines of a text, at most as many as the first argument. -/
def readLinesOf? : Nat → Reading → List Char → Option Reading
  | 0, reading, cs => if cs.isEmpty then some reading else none
  | count + 1, reading, cs =>
    match dropSpacing cs.length cs with
    | [] => some reading
    | cs => do
      let (reading, rest) ← match cs with
        | '[' :: rest => readHeader? reading rest
        | cs => readField? reading cs
      readLinesOf? count reading (← finishLine? rest)

/-- The fields of a text. -/
def read? (text : String) : Option (List (String × Value)) := do
  let cs := text.toList
  let reading ← readLinesOf? (cs.length + 1) {} cs
  some (fieldValues reading.root)

end MeshAudit.Toml

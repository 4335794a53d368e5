import MeshAudit.Document.Value
import MeshAudit.Number.Reading
import MeshAudit.Text.Blank

/-!
# Reading JSON5

JSON for people: names need no quotes, texts may have single quotes, lists and objects may end with
a comma, numbers have more forms, and there are comments.
-/

namespace MeshAudit.Json5

/-- The text after a comment of several lines. -/
def afterBlock? : List Char → Option (List Char)
  | [] => none
  | '*' :: '/' :: rest => some rest
  | _ :: rest => afterBlock? rest

/-- Characters that end a line. -/
def isLineEnd (c : Char) : Bool := c = '\n' || c = '\r' || c = '\u2028' || c = '\u2029'

/-- Characters between tokens. -/
def isSpacing (c : Char) : Bool := (Text.isBlank c && c ≠ '\u0085') || c = '\uFEFF'

/-- The text after blanks and comments, of which there are at most as many as the first argument. -/
def dropSpacing : Nat → List Char → List Char
  | 0, cs => cs
  | count + 1, cs =>
    match cs.dropWhile isSpacing with
    | '/' :: '/' :: rest => dropSpacing count (rest.dropWhile fun c => !isLineEnd c)
    | '/' :: '*' :: rest =>
      match afterBlock? rest with
      | some rest => dropSpacing count rest
      | none => '/' :: '*' :: rest
    | cs => cs

/-- The text after all blanks and comments. -/
def skip (cs : List Char) : List Char := dropSpacing cs.length cs

/-- The characters for which an escape stands, and how many it takes after the backslash. An escaped
line end stands for nothing. -/
def escape? : List Char → Option (List Char × Nat)
  | [] => none
  | '\r' :: '\n' :: _ => some ([], 2)
  | c :: rest =>
    let digits := fun width => do
      let n ← Text.readDigits? 16 (rest.take width)
      if (rest.take width).length = width ∧ n.isValidChar then some ([Char.ofNat n], width + 1)
      else none
    match c with
    | 'b' => some (['\x08'], 1)
    | 'f' => some (['\x0c'], 1)
    | 'n' => some (['\n'], 1)
    | 'r' => some (['\r'], 1)
    | 't' => some (['\t'], 1)
    | 'v' => some (['\x0b'], 1)
    | '0' => if rest.head?.any Char.isDigit then none else some (['\x00'], 1)
    | 'x' => digits 2
    | 'u' => digits 4
    | c => if isLineEnd c then some ([], 1) else if c.isDigit then none else some ([c], 1)

/-- Read the inside of a text up to its quote, collecting it in reverse. -/
def readText? (quote : Char) (done : List Char) : List Char → Option (String × List Char)
  | [] => none
  | c :: rest =>
    if c = quote then some (String.ofList done.reverse, rest)
    else if c = '\\' then
      match escape? rest with
      | some (cs, width) => readText? quote (cs ++ done) (rest.drop width)
      | none => none
    else if c = '\n' ∨ c = '\r' then none
    else readText? quote (c :: done) rest
termination_by cs => cs.length
decreasing_by all_goals (simp only [List.length_drop, List.length_cons]; omega)

/-- Whether a character may start a name; letters beyond ASCII are taken as such. -/
def startsName (c : Char) : Bool := c.isAlpha || c = '_' || c = '$' || 0x80 ≤ c.toNat

/-- Read the name of a field. -/
def readName? (cs : List Char) : Option (String × List Char) :=
  match cs with
  | '"' :: rest => readText? '"' [] rest
  | '\'' :: rest => readText? '\'' [] rest
  | c :: _ =>
    if startsName c then
      let (name, rest) := cs.span fun c => startsName c || c.isDigit
      some (String.ofList name, rest)
    else none
  | [] => none

/-- Characters of numbers and words. -/
def isScalarChar (c : Char) : Bool := c.isAlphanum || c = '+' || c = '-' || c = '.'

/-- Whether digits have a superfluous zero in front. -/
def isPadded : List Char → Bool
  | '0' :: c :: _ => c.isDigit
  | _ => false

/-- Read a number without its sign. -/
def number? (negative : Bool) (cs : List Char) : Option Value :=
  let sized := fun (n : Nat) =>
    let value := if negative then -(n : Int) else n
    if Text.fitsInt64 value then some (Value.integer value) else none
  match cs with
  | '0' :: 'x' :: digits => (Text.readDigits? 16 digits).bind sized
  | '0' :: 'X' :: digits => (Text.readDigits? 16 digits).bind sized
  | cs =>
    if cs = "Infinity".toList then some (.number (.float (Binary64.infinity negative)))
    else if cs = "NaN".toList then some (.number (.float Binary64.nan))
    else if isPadded cs then none
    else if cs.all Char.isDigit then (Text.readDigits? 10 cs).bind sized
    else (Binary64.readMagnitude? negative cs).map fun x => .number (.float x)

/-- Read a number or a word. -/
def readScalar? (cs : List Char) : Option (Value × List Char) :=
  let (head, rest) := cs.span isScalarChar
  let value? :=
    if head = "null".toList then some .null
    else if head = "true".toList then some (.bool true)
    else if head = "false".toList then some (.bool false)
    else
      let (negative, digits) := Binary64.splitSign head
      number? negative digits
  value?.map fun value => (value, rest)

mutual

/-- Read a value. -/
def readValue? : Nat → List Char → Option (Value × List Char)
  | 0, _ => none
  | depth + 1, cs =>
    match skip cs with
    | '[' :: rest => (readItems? depth rest).map fun r => (.array r.1, r.2)
    | '{' :: rest => (readFields? depth rest).map fun r => (.ofFields r.1, r.2)
    | '"' :: rest => (readText? '"' [] rest).map fun r => (.string r.1, r.2)
    | '\'' :: rest => (readText? '\'' [] rest).map fun r => (.string r.1, r.2)
    | cs => readScalar? cs

/-- Read the items of a list up to its closing bracket. -/
def readItems? : Nat → List Char → Option (List Value × List Char)
  | 0, _ => none
  | depth + 1, cs =>
    match skip cs with
    | ']' :: rest => some ([], rest)
    | cs => do
      let (item, rest) ← readValue? depth cs
      match skip rest with
      | ',' :: rest =>
        let (items, rest) ← readItems? depth rest
        some (item :: items, rest)
      | ']' :: rest => some ([item], rest)
      | _ => none

/-- Read the fields of an object up to its closing brace. -/
def readFields? : Nat → List Char → Option (List (String × Value) × List Char)
  | 0, _ => none
  | depth + 1, cs =>
    match skip cs with
    | '}' :: rest => some ([], rest)
    | cs => do
      let (name, rest) ← readName? cs
      match skip rest with
      | ':' :: rest =>
        let (value, rest) ← readValue? depth rest
        match skip rest with
        | ',' :: rest =>
          let (fields, rest) ← readFields? depth rest
          some ((name, value) :: fields, rest)
        | '}' :: rest => some ([(name, value)], rest)
        | _ => none
      | _ => none

end

/-- The value that a text holds. -/
def read? (text : String) : Option Value := do
  let cs := text.toList
  let (value, rest) ← readValue? (2 * cs.length + 2) cs
  if (skip rest).isEmpty then some value else none

end MeshAudit.Json5

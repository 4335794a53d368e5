import MeshAudit.Text.Integer

/-!
# TOML texts

A text stands between double quotes, where a backslash starts an escape, or between single quotes,
where nothing is special. With three quotes it may have several lines.
-/

namespace MeshAudit.Toml

/-- Whether a character may stand in a text on one line or in a comment. -/
def isInline (c : Char) : Bool := c = '\t' || (0x20 ≤ c.toNat && c.toNat ≠ 0x7F)

/-- What follows a line end, if the text starts with one. -/
def afterLineEnd? : List Char → Option (List Char)
  | '\n' :: rest => some rest
  | '\r' :: '\n' :: rest => some rest
  | _ => none

/-- The character for which one character after a backslash stands. -/
def shortEscape? (c : Char) : Option Char :=
  match c with
  | 'b' => some '\x08'
  | 't' => some '\t'
  | 'n' => some '\n'
  | 'f' => some '\x0c'
  | 'r' => some '\r'
  | '"' => some '"'
  | '\\' => some '\\'
  | _ => none

/-- The character for which an escape stands, and how many characters it takes after the
backslash. -/
def escape? : List Char → Option (Char × Nat)
  | [] => none
  | c :: rest =>
    match shortEscape? c with
    | some c => some (c, 1)
    | none => do
      let width ← if c = 'u' then some 4 else if c = 'U' then some 8 else none
      let n ← Text.readDigits? 16 (rest.take width)
      if (rest.take width).length = width ∧ n.isValidChar then some (Char.ofNat n, width + 1)
      else none

/-- Read the inside of a text on one line up to its quote, collecting it in reverse. -/
def readLine? (quote : Char) (done : List Char) : List Char → Option (String × List Char)
  | [] => none
  | c :: rest =>
    if c = quote then some (String.ofList done.reverse, rest)
    else if quote = '"' ∧ c = '\\' then
      match escape? rest with
      | some (c, width) => readLine? quote (c :: done) (rest.drop width)
      | none => none
    else if isInline c then readLine? quote (c :: done) rest
    else none
termination_by cs => cs.length
decreasing_by all_goals (simp only [List.length_drop, List.length_cons]; omega)

/-- Blanks inside a line. -/
def isBlank (c : Char) : Bool := c = ' ' || c = '\t'

/-- What follows a backslash at the end of a line: the next character that is neither a blank nor a
line end. -/
def afterFold? (cs : List Char) : Option (List Char) :=
  match afterLineEnd? (cs.dropWhile isBlank) with
  | some rest => some (rest.dropWhile fun c => isBlank c || c = '\n' || c = '\r')
  | none => none

/-- Read the inside of a text of several lines up to its three quotes, collecting it in reverse, in
at most as many steps as the first argument. Up to two quotes may stand before the last three. -/
def readLines? (quote : Char) : Nat → List Char → List Char → Option (String × List Char)
  | 0, _, _ => none
  | steps + 1, done, cs =>
    match cs with
    | [] => none
    | c :: rest =>
      if c = quote then
        let quotes := cs.takeWhile (· = quote)
        let rest := cs.dropWhile (· = quote)
        if quotes.length < 3 then readLines? quote steps (quotes ++ done) rest
        else if 5 < quotes.length then none
        else some (String.ofList (quotes.drop 3 ++ done).reverse, rest)
      else if quote = '"' ∧ c = '\\' then
        match afterFold? rest with
        | some rest => readLines? quote steps done rest
        | none =>
          match escape? rest with
          | some (c, width) => readLines? quote steps (c :: done) (rest.drop width)
          | none => none
      else
        match afterLineEnd? cs with
        | some rest => readLines? quote steps ('\n' :: done) rest
        | none => if isInline c then readLines? quote steps (c :: done) rest else none

/-- Read a text from its quotes on. A line end right after three quotes is dropped. -/
def readText? : List Char → Option (String × List Char)
  | a :: b :: c :: rest =>
    if (a = '"' ∨ a = '\'') ∧ b = a ∧ c = a then
      readLines? a rest.length [] ((afterLineEnd? rest).getD rest)
    else if a = '"' ∨ a = '\'' then readLine? a [] (b :: c :: rest)
    else none
  | a :: rest => if a = '"' ∨ a = '\'' then readLine? a [] rest else none
  | [] => none

end MeshAudit.Toml

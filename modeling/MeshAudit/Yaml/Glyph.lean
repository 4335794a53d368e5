import MeshAudit.Yaml.Character

/-!
# Placed characters

The structure of a YAML text depends on where its characters stand. Here every character gets its
line and its column, and each way to end a line that is common in files becomes a line feed.
-/

namespace MeshAudit.Yaml

/-- A character with its place in a text. -/
structure Glyph where
  /-- The character; a line feed for most line ends. -/
  char : Char
  /-- Number of lines before it. -/
  line : Nat
  /-- Number of characters before it in its line. -/
  column : Nat
  /-- Number of characters before it in the text. -/
  index : Nat
  deriving DecidableEq, Repr

/-- The form in which a line end is kept. -/
def normalBreak (c : Char) : Char := if c = '\r' ∨ c = '\u0085' then '\n' else c

/-- The characters of a text from a given place on. A carriage return and the line feed after it
end one line. -/
def placeFrom (line column index : Nat) : List Char → List Glyph
  | [] => []
  | '\r' :: '\n' :: rest => ⟨'\n', line, column, index⟩ :: placeFrom (line + 1) 0 (index + 2) rest
  | c :: rest =>
    if isBreak c then
      ⟨normalBreak c, line, column, index⟩ :: placeFrom (line + 1) 0 (index + 1) rest
    else ⟨c, line, column, index⟩ :: placeFrom line (column + 1) (index + 1) rest

/-- The placed characters of a text. -/
def place (text : String) : List Glyph := placeFrom 0 0 0 text.toList

/-- Whether a word ends here: a blank, a line end or nothing follows. -/
def wordEnds (glyphs : List Glyph) : Bool := glyphs.head?.all fun g => isSpacing g.char

/-- Whether the next character is of a kind. -/
def next (kind : Char → Bool) (glyphs : List Glyph) : Bool := glyphs.head?.any fun g => kind g.char

/-- Whether three hyphens or three points stand alone at the start of a line; they separate
documents wherever they occur. -/
def isDocumentMark : List Glyph → Bool
  | a :: b :: c :: rest =>
    a.column = 0 && (a.char = '-' || a.char = '.') && b.char = a.char && c.char = a.char &&
      wordEnds rest
  | _ => false

/-- The glyphs up to the first that is not of a kind, as a text, and the others. -/
def spanChars (kind : Char → Bool) (glyphs : List Glyph) : String × List Glyph :=
  let (taken, rest) := glyphs.span fun g => kind g.char
  (String.ofList (taken.map Glyph.char), rest)

/-- The glyphs without the blanks at their start. -/
def dropBlanks (glyphs : List Glyph) : List Glyph := glyphs.dropWhile fun g => isBlank g.char

/-- The lines after the current one, of which only blanks and a comment may be left. -/
def finishLine? (glyphs : List Glyph) : Option (List Glyph) :=
  let rest := dropBlanks glyphs
  let rest := if next (· = '#') rest then rest.dropWhile fun g => !isBreak g.char else rest
  match rest with
  | [] => some []
  | g :: rest => if isBreak g.char then some rest else none

end MeshAudit.Yaml

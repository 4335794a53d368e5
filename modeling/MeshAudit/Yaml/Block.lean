import MeshAudit.Yaml.Glyph

/-!
# Block scalars

A block scalar is a run of indented lines after a header. The lines are kept, or joined where
neither of two neighbours starts with a blank. The header may give the indentation, and says what
happens to the line ends after the last line.
-/

namespace MeshAudit.Yaml

/-- What happens to the line ends after the last line. -/
inductive Chomp where
  /-- All are dropped. -/
  | strip
  /-- The first is kept. -/
  | clip
  /-- All are kept. -/
  | keep
  deriving DecidableEq, Repr

/-- Take a mark for line ends. -/
def takeChomp (glyphs : List Glyph) : Option Chomp × List Glyph :=
  if next (· = '+') glyphs then (some .keep, glyphs.drop 1)
  else if next (· = '-') glyphs then (some .strip, glyphs.drop 1)
  else (none, glyphs)

/-- Take a digit for the indentation, which is not zero. -/
def takeWidth? (glyphs : List Glyph) : Option (Option Nat × List Glyph) :=
  match glyphs with
  | g :: rest =>
    if g.char = '0' then none
    else if g.char.isDigit then some (some (g.char.toNat - '0'.toNat), rest)
    else some (none, glyphs)
  | [] => some (none, [])

/-- Read a header, whose two marks come in either order. -/
def readHeader? (glyphs : List Glyph) : Option (Chomp × Option Nat × List Glyph) := do
  let (early, rest) := takeChomp glyphs
  let (width, rest) ← takeWidth? rest
  let (late, rest) := if early.isSome then (none, rest) else takeChomp rest
  let rest ← finishLine? rest
  some ((early.or late).getD .clip, width, rest)

/-- Column of the first line that is not empty, or of the end of a longer line of blanks before it. A
tabulator at the start of a line has no meaning. -/
def deepestColumn? (deepest : Nat) : List Glyph → Option Nat
  | [] => some deepest
  | g :: rest =>
    if g.char = ' ' then deepestColumn? (max deepest (g.column + 1)) rest
    else if g.char = '\t' then none
    else if isBreak g.char then deepestColumn? deepest rest
    else some deepest

/-- The lines of a block read so far. -/
structure BlockLines where
  /-- Text of the lines without the end of the last one, last character first. -/
  done : List Char := []
  /-- End of the last line. -/
  lineEnd : Option Char := none
  /-- Ends of the empty lines after it, last first. -/
  emptyLines : List Char := []
  /-- Whether the last line starts with a blank. -/
  indented : Bool := false

namespace BlockLines

/-- Begin a further line with its first character. -/
def begin (lines : BlockLines) (folded : Bool) (c : Char) : BlockLines :=
  let joined := folded && lines.lineEnd = some '\n' && !lines.indented && !isBlank c
  let ends :=
    if joined then if lines.emptyLines.isEmpty then [' '] else lines.emptyLines
    else lines.emptyLines ++ lines.lineEnd.toList
  { done := c :: (ends ++ lines.done), indented := isBlank c }

/-- The text of all lines. -/
def text (lines : BlockLines) (chomp : Chomp) : String :=
  let ends := match chomp with
    | .strip => []
    | .clip => lines.lineEnd.toList
    | .keep => lines.emptyLines ++ lines.lineEnd.toList
  String.ofList (ends ++ lines.done).reverse

end BlockLines

/-- Read the lines at a column, from within a line or from the start of one. -/
def readLines? (folded : Bool) (column : Nat) (within : Bool) (lines : BlockLines) :
    List Glyph → Option (BlockLines × List Glyph)
  | [] => some (lines, [])
  | g :: rest =>
    if within then
      if isBreak g.char then
        readLines? folded column false { lines with lineEnd := some g.char } rest
      else readLines? folded column true { lines with done := g.char :: lines.done } rest
    else if g.char = ' ' ∧ g.column < column then readLines? folded column false lines rest
    else if g.char = '\t' ∧ g.column < column then none
    else if isBreak g.char then
      readLines? folded column false { lines with emptyLines := g.char :: lines.emptyLines } rest
    else if g.column = column then readLines? folded column true (lines.begin folded g.char) rest
    else some (lines, g :: rest)

/-- Read a block scalar after its mark, where the block around it has the given column, if there is
one. -/
def readBlock? (folded : Bool) (parent : Option Nat) (glyphs : List Glyph) :
    Option (String × List Glyph) := do
  let (chomp, width, rest) ← readHeader? glyphs
  let column ← match width with
    | some n => some (parent.getD 0 + n)
    | none => (deepestColumn? 0 rest).map fun n => max n (max 1 ((parent.map (· + 1)).getD 0))
  let (lines, rest) ← readLines? folded column false {} rest
  some (lines.text chomp, rest)

end MeshAudit.Yaml

import MeshAudit.Yaml.Token
import MeshAudit.Yaml.Glyph

/-!
# Layout

Indentation and colons give a YAML text its structure only in retrospect: a scalar turns out to be
a key when a colon follows it on its line, and a block ends where a line starts further to the left.
The layout of a text keeps what is needed for that: the columns of the open blocks, and for every
level of brackets the place that may turn out to be a key.
-/

namespace MeshAudit.Yaml

/-- A place that turns out to be a key if a colon follows. -/
structure KeyCandidate where
  /-- Number of tokens before it. -/
  position : Nat
  /-- Whether it must be a key, since it starts a line of a block. -/
  required : Bool
  /-- Its first character. -/
  start : Glyph

namespace KeyCandidate

/-- Greatest number of characters between the start of a key and its colon. -/
def maxKeyLength : Nat := 1024

/-- Whether a place cannot be a key any more, since its line has ended or it is too long. -/
def isStale (candidate : KeyCandidate) (here : Glyph) : Bool :=
  candidate.start.line < here.line || candidate.start.index + maxKeyLength < here.index

/-- Whether a place may turn out to be a key, or is wrong unless it does. -/
def isOpen (candidate : KeyCandidate) (here : Option Glyph) : Bool :=
  candidate.required || !here.any candidate.isStale

end KeyCandidate

/-- A text that has been turned into tokens up to some place. -/
structure Layout where
  /-- What has not been turned into tokens. -/
  rest : List Glyph
  /-- The tokens so far, last first. -/
  tokens : List Token := []
  /-- Columns of the open blocks, innermost first. -/
  columns : List Nat := []
  /-- What may be a key at the innermost level of brackets. -/
  candidate : Option KeyCandidate := none
  /-- What may be a key at each level of brackets around it, innermost first. -/
  outer : List (Option KeyCandidate) := []
  /-- Whether a key may start here. -/
  keyAllowed : Bool := true

namespace Layout

/-- Whether the place is inside of brackets. -/
def inFlow (layout : Layout) : Bool := !layout.outer.isEmpty

/-- Add a token. -/
def emit (layout : Layout) (token : Token) : Layout :=
  { layout with tokens := token :: layout.tokens }

/-- Insert tokens after the first ones, as many as a position says. -/
def insertAt (layout : Layout) (position : Nat) (tokens : List Token) : Layout :=
  let (late, early) := layout.tokens.splitAt (layout.tokens.length - position)
  { layout with tokens := late ++ tokens.reverse ++ early }

/-- Whether a block at a column is inside of all open blocks. -/
def opensBlock (layout : Layout) (column : Nat) : Bool :=
  !layout.inFlow && layout.columns.head?.all (· < column)

/-- Open a block at a column, unless it is open. -/
def openBlock (layout : Layout) (column : Nat) (token : Token) : Layout :=
  if layout.opensBlock column then
    ({ layout with columns := column :: layout.columns }).emit token
  else layout

/-- Close blocks while a condition holds for their columns. Brackets keep all blocks open. -/
def closeBlocks (layout : Layout) (closes : Nat → Bool) : Layout :=
  if layout.inFlow then layout
  else
    let closed := layout.columns.takeWhile closes
    { layout with
      columns := layout.columns.dropWhile closes
      tokens := closed.map (fun _ => .blockEnd) ++ layout.tokens }

/-- Give up what may be a key, if it need not be one. -/
def dropCandidate? (layout : Layout) : Option Layout :=
  if layout.candidate.any KeyCandidate.required then none
  else some { layout with candidate := none }

/-- Let the next token be a key if a colon follows it. -/
def saveCandidate? (layout : Layout) (start : Glyph) : Option Layout := do
  if layout.keyAllowed then
    let layout ← layout.dropCandidate?
    let required := !layout.inFlow && layout.columns.head? = some start.column
    some { layout with candidate := some ⟨layout.tokens.length, required, start⟩ }
  else some layout

/-- Give up what cannot be a key any more, if it need not be one. -/
def refresh? (here : Glyph) (candidate : Option KeyCandidate) : Option (Option KeyCandidate) :=
  match candidate with
  | none => some none
  | some c =>
    if c.isStale here then if c.required then none else some none
    else some (some c)

/-- Give up all candidates that cannot be keys any more. -/
def refreshCandidates? (layout : Layout) (here : Glyph) : Option Layout := do
  some { layout with
    candidate := ← refresh? here layout.candidate
    outer := ← layout.outer.mapM (refresh? here) }

/-- Go into brackets. -/
def enter (layout : Layout) : Layout :=
  { layout with outer := layout.candidate :: layout.outer, candidate := none, keyAllowed := true }

/-- Go out of brackets. -/
def leave (layout : Layout) : Layout :=
  { layout with
    candidate := layout.outer.head?.getD layout.candidate
    outer := layout.outer.tail
    keyAllowed := false }

/-- The tokens, last first, that stay as they are whatever follows: those before all places that may
turn out to be keys. -/
def settled (layout : Layout) : List Token :=
  let here := layout.rest.head?
  let positions := (layout.candidate :: layout.outer).filterMap fun c =>
    (c.filter fun c => c.isOpen here).map KeyCandidate.position
  let kept := positions.foldl min layout.tokens.length
  layout.tokens.drop (layout.tokens.length - kept)

/-- Skip blanks, comments and line ends. A tabulator is no blank where a key may start outside of
brackets; a key may start after a line end there. A mark of the order of bytes may start a line. -/
def skipFrom (inFlow keyAllowed comment : Bool) : List Glyph → Bool × List Glyph
  | [] => (keyAllowed, [])
  | g :: rest =>
    if isBreak g.char then skipFrom inFlow (keyAllowed || !inFlow) false rest
    else if comment ∨ g.char = ' ' ∨ (g.char = '\t' ∧ (inFlow ∨ !keyAllowed)) ∨
        (g.char = '\uFEFF' ∧ g.column = 0) then
      skipFrom inFlow keyAllowed comment rest
    else if g.char = '#' then skipFrom inFlow keyAllowed true rest
    else (keyAllowed, g :: rest)

/-- The layout at the next token. -/
def skipSpacing (layout : Layout) : Layout :=
  let (keyAllowed, rest) := skipFrom layout.inFlow layout.keyAllowed false layout.rest
  { layout with keyAllowed := keyAllowed, rest := rest }

end Layout

end MeshAudit.Yaml

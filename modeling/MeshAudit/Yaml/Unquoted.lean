import MeshAudit.Yaml.Gap
import MeshAudit.Yaml.Glyph

/-!
# Scalars without quotes

A scalar without quotes goes on over blanks and line ends until a mark of structure, a comment, a
mark of a document or, outside of brackets, a line that is not indented.
-/

namespace MeshAudit.Yaml

/-- Whether a character may start a scalar without quotes. A hyphen, question mark or colon may when
it is not a mark of structure itself. -/
def startsUnquoted (flow : Bool) : List Glyph → Bool
  | [] => false
  | g :: rest =>
    if g.char = '-' then !wordEnds rest
    else if g.char = '?' ∨ g.char = ':' then !flow && !wordEnds rest
    else !(isSpacing g.char || isFlowMark g.char || "#&*!|>'\"%@\x60".toList.contains g.char)

/-- Whether a line with this start cannot go on with the scalar before it. -/
def endsUnquoted (flow : Bool) (column : Nat) (glyphs : List Glyph) : Bool :=
  isDocumentMark glyphs || next (· = '#') glyphs ||
    (!flow && glyphs.head?.any fun g => g.column < column)

/-- Read a scalar without quotes from its words so far, last character first, and the gap after
them. Its further lines start at a column at least. The answer says whether a line ended after the
last word. -/
def readUnquoted? (flow : Bool) (column : Nat) (done : List Char) (gap : Gap) :
    List Glyph → Option (String × Bool × List Glyph)
  | [] => some (String.ofList done.reverse, gap.broken, [])
  | g :: rest =>
    if isSpacing g.char then
      -- a tabulator in place of indentation has no meaning
      if g.char = '\t' ∧ gap.broken ∧ g.column < column then none
      else readUnquoted? flow column done (gap.add g.char) rest
    else if !gap.isEmpty && endsUnquoted flow column (g :: rest) then
      some (String.ofList done.reverse, gap.broken, g :: rest)
    -- nor has a colon before a mark of structure in brackets
    else if flow ∧ g.char = ':' ∧ next (fun c => c = '?' || isFlowMark c) rest then none
    else if (g.char = ':' ∧ wordEnds rest) ∨ (flow ∧ isFlowMark g.char) then
      some (String.ofList done.reverse, gap.broken, g :: rest)
    else readUnquoted? flow column (g.char :: (gap.folded ++ done)) {} rest

end MeshAudit.Yaml

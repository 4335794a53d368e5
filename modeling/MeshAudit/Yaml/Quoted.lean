import MeshAudit.Text.Integer
import MeshAudit.Yaml.Gap
import MeshAudit.Yaml.Glyph

/-!
# Quoted scalars

Between single quotes a quote is written twice and nothing else is special. Between double quotes
a backslash starts an escape. In both, lines are joined.
-/

namespace MeshAudit.Yaml

/-- The character for which one character after a backslash stands. -/
def shortEscape? (c : Char) : Option Char :=
  match c with
  | '0' => some '\x00'
  | 'a' => some '\x07'
  | 'b' => some '\x08'
  | 't' => some '\t'
  | '\t' => some '\t'
  | 'n' => some '\n'
  | 'v' => some '\x0b'
  | 'f' => some '\x0c'
  | 'r' => some '\r'
  | 'e' => some '\x1b'
  | ' ' => some ' '
  | '"' => some '"'
  | '/' => some '/'
  | '\\' => some '\\'
  | 'N' => some '\u0085'
  | '_' => some '\u00a0'
  | 'L' => some '\u2028'
  | 'P' => some '\u2029'
  | _ => none

/-- Number of hexadecimal digits after a letter that announces them. -/
def escapeWidth? (c : Char) : Option Nat :=
  match c with
  | 'x' => some 2
  | 'u' => some 4
  | 'U' => some 8
  | _ => none

/-- The character for which an escape stands, and how many glyphs it takes after the backslash. -/
def escape? : List Glyph → Option (Char × Nat)
  | [] => none
  | g :: rest =>
    match shortEscape? g.char with
    | some c => some (c, 1)
    | none => do
      let width ← escapeWidth? g.char
      let digits := rest.take width
      let n ← Text.readDigits? 16 (digits.map Glyph.char)
      if digits.length = width ∧ n.isValidChar then some (Char.ofNat n, width + 1) else none

/-- Read the inside of a quoted scalar from its words so far, last character first, and the gap
after them. -/
def readQuoted? (quote : Char) (done : List Char) (gap : Gap) :
    List Glyph → Option (String × List Glyph)
  | [] => none
  | g :: rest =>
    if isSpacing g.char then readQuoted? quote done (gap.add g.char) rest
    else if isDocumentMark (g :: rest) then none
    else if g.char = quote then
      if quote = '\'' ∧ next (· = '\'') rest then
        readQuoted? quote ('\'' :: (gap.folded ++ done)) {} (rest.drop 1)
      else some (String.ofList (gap.folded ++ done).reverse, rest)
    else if quote = '"' ∧ g.char = '\\' then
      if next isBreak rest then
        readQuoted? quote (gap.folded ++ done) { broken := true } (rest.drop 1)
      else
        match escape? rest with
        | some (c, width) => readQuoted? quote (c :: (gap.folded ++ done)) {} (rest.drop width)
        | none => none
    else readQuoted? quote (g.char :: (gap.folded ++ done)) {} rest
termination_by glyphs => glyphs.length
decreasing_by all_goals (simp only [List.length_drop, List.length_cons]; omega)

end MeshAudit.Yaml

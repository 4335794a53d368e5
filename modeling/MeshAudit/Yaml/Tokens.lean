import MeshAudit.Yaml.Block
import MeshAudit.Yaml.Label
import MeshAudit.Yaml.Layout
import MeshAudit.Yaml.Quoted
import MeshAudit.Yaml.Unquoted

/-!
# The tokens of a text

A text is turned into tokens one by one. Each takes at least one character. Where no token can be
read the sequence breaks off, so that what comes before can still be used, as far as it is settled.
-/

namespace MeshAudit.Yaml

namespace Layout

/-- A mark between documents, or a directive: all blocks end before it. -/
def separator? (layout : Layout) (token : Token) (rest : List Glyph) : Option Layout := do
  let layout ← (layout.closeBlocks fun _ => true).dropCandidate?
  some ({ layout with keyAllowed := false, rest := rest }.emit token)

/-- Start of a collection in brackets. -/
def bracket? (layout : Layout) (here : Glyph) (token : Token) : Option Layout := do
  let layout ← layout.saveCandidate? here
  some (layout.enter.emit token)

/-- End of a collection in brackets. -/
def endBracket? (layout : Layout) (token : Token) : Option Layout := do
  let layout ← layout.dropCandidate?
  some (layout.leave.emit token)

/-- Separator of items in brackets. -/
def comma? (layout : Layout) : Option Layout := do
  let layout ← layout.dropCandidate?
  some ({ layout with keyAllowed := true }.emit .flowEntry)

/-- Mark before an item of a sequence, which may open the sequence. -/
def entry? (layout : Layout) (here : Glyph) : Option Layout := do
  if !layout.inFlow && !layout.keyAllowed then none
  else
    let layout ← (layout.openBlock here.column .sequenceStart).dropCandidate?
    some ({ layout with keyAllowed := true }.emit .entry)

/-- Mark before a key, which may open a mapping. -/
def key? (layout : Layout) (here : Glyph) : Option Layout := do
  if !layout.inFlow && !layout.keyAllowed then none
  else
    let layout ← (layout.openBlock here.column .mappingStart).dropCandidate?
    some ({ layout with keyAllowed := !layout.inFlow }.emit .key)

/-- Mark before a value. What may be a key is one now, and may open a mapping. -/
def value? (layout : Layout) (here : Glyph) : Option Layout :=
  match layout.candidate with
  | some c =>
    let opens := layout.opensBlock c.start.column
    let layout := layout.insertAt c.position (if opens then [.mappingStart, .key] else [.key])
    let columns := if opens then c.start.column :: layout.columns else layout.columns
    some ({ layout with columns := columns, candidate := none, keyAllowed := false }.emit .value)
  | none =>
    if !layout.inFlow && !layout.keyAllowed then none
    else
      let layout := layout.openBlock here.column .mappingStart
      some ({ layout with keyAllowed := !layout.inFlow }.emit .value)

/-- A token that may be the start of a key. -/
def content? (layout : Layout) (here : Glyph) (read : Option (Token × List Glyph)) :
    Option Layout := do
  let layout ← layout.saveCandidate? here
  let (token, rest) ← read
  some ({ layout with keyAllowed := false, rest := rest }.emit token)

/-- A block scalar, after which a key may start. -/
def block? (layout : Layout) (form : ScalarForm) (rest : List Glyph) : Option Layout := do
  let layout ← layout.dropCandidate?
  let (text, rest) ← readBlock? (form ≠ .literal) layout.columns.head? rest
  some ({ layout with keyAllowed := true, rest := rest }.emit (.scalar form text))

/-- A scalar without quotes. A key may start after it if its line has ended. -/
def unquoted? (layout : Layout) (here : Glyph) (rest : List Glyph) : Option Layout := do
  if !startsUnquoted layout.inFlow (here :: rest) then none
  else
    let layout ← layout.saveCandidate? here
    let column := (layout.columns.head?.map (· + 1)).getD 0
    let (text, ended, rest) ← readUnquoted? layout.inFlow column [] {} (here :: rest)
    some ({ layout with keyAllowed := ended, rest := rest }.emit (.scalar .plain text))

/-- Read the token that starts with the next character. -/
def readToken? (layout : Layout) (here : Glyph) (rest : List Glyph) : Option Layout :=
  let layout := { layout with rest := rest }
  if here.column = 0 ∧ here.char = '%' then
    (readDirective? rest).bind fun read => layout.separator? read.1 read.2
  else if isDocumentMark (here :: rest) then
    layout.separator? (if here.char = '-' then .documentStart else .documentEnd) (rest.drop 2)
  else if here.char = '-' ∧ wordEnds rest then layout.entry? here
  else if here.char = '?' ∧ (layout.inFlow ∨ wordEnds rest) then layout.key? here
  else if here.char = ':' ∧ (layout.inFlow ∨ wordEnds rest) then layout.value? here
  else
    match here.char with
    | '[' => layout.bracket? here .flowSequenceStart
    | '{' => layout.bracket? here .flowMappingStart
    | ']' => layout.endBracket? .flowSequenceEnd
    | '}' => layout.endBracket? .flowMappingEnd
    | ',' => layout.comma?
    | '*' => layout.content? here ((readAnchorName? rest).map fun r => (.alias r.1, r.2))
    | '&' => layout.content? here ((readAnchorName? rest).map fun r => (.anchor r.1, r.2))
    | '!' => layout.content? here (readEndedTag? layout.inFlow (here :: rest))
    | '\'' =>
      layout.content? here ((readQuoted? '\'' [] {} rest).map fun r => (.scalar .other r.1, r.2))
    | '"' =>
      layout.content? here ((readQuoted? '"' [] {} rest).map fun r => (.scalar .other r.1, r.2))
    | '|' => if layout.inFlow then none else layout.block? .literal rest
    | '>' => if layout.inFlow then none else layout.block? .other rest
    | _ => layout.unquoted? here rest

/-- Read the next token, after the end of all blocks that do not reach its column. -/
def step? (layout : Layout) (here : Glyph) (rest : List Glyph) : Option Layout := do
  let layout ← layout.refreshCandidates? here
  (layout.closeBlocks fun column => here.column < column).readToken? here rest

/-- The tokens of a whole text, if it ends properly. -/
def finish? (layout : Layout) : Option (List Token) := do
  let layout ← (layout.closeBlocks fun _ => true).dropCandidate?
  some (Token.streamEnd :: layout.tokens)

/-- The tokens of a text with the given layout, in as many steps as the first argument. -/
def tokensWithin : Nat → Layout → List Token
  | 0, layout => (.broken :: layout.settled).reverse
  | steps + 1, layout =>
    let skipped := layout.skipSpacing
    match skipped.rest with
    | [] => (skipped.finish?.getD (.broken :: layout.settled)).reverse
    | here :: rest =>
      match skipped.step? here rest with
      | some layout => tokensWithin steps layout
      | none => (.broken :: layout.settled).reverse

end Layout

/-- The tokens of a text. A text with a character that is not allowed has none. -/
def tokens (text : String) : List Token :=
  if text.toList.all isAllowed then
    let glyphs := place text
    Layout.tokensWithin (glyphs.length + 1) { rest := glyphs }
  else [.broken]

end MeshAudit.Yaml

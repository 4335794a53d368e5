import MeshAudit.Text.Integer
import MeshAudit.Yaml.Glyph
import MeshAudit.Yaml.Token

/-!
# Anchors, tags and directives

Names that are attached to nodes, and the directives that give tags a meaning.
-/

namespace MeshAudit.Yaml

/-- Read the name of an anchor or alias, and check that it ends there. -/
def readAnchorName? (glyphs : List Glyph) : Option (String × List Glyph) :=
  let (name, rest) := spanChars isNameChar glyphs
  let ended := wordEnds rest || next (fun c => "?:,]\x7d%@\x60".toList.contains c) rest
  if name = "" ∨ !ended then none else some (name, rest)

/-- Characters of a tag; commas and brackets are among them where the tag is in angle brackets. -/
def isTagChar (bracketed : Bool) (c : Char) : Bool :=
  isNameChar c || ";/?:@&=+$.!~*'()%".toList.contains c || (bracketed && ",[]".toList.contains c)

/-- The bytes of a text in which a percent sign and two hexadecimal digits stand for a byte. -/
def percentBytes? : List Char → Option (List UInt8)
  | [] => some []
  | '%' :: a :: b :: rest => do
    let n ← Text.readDigits? 16 [a, b]
    let bytes ← percentBytes? rest
    some (n.toUInt8 :: bytes)
  | c :: rest =>
    if c = '%' then none else (percentBytes? rest).map fun bytes => c.toUInt8 :: bytes

/-- The text for which a text with percent signs stands. -/
def decodePercent? (s : String) : Option String := do
  let bytes ← percentBytes? s.toList
  String.fromUTF8? ⟨bytes.toArray⟩

/-- Read the part of a tag after its handle. -/
def readTagText? (bracketed : Bool) (glyphs : List Glyph) : Option (String × List Glyph) :=
  let (raw, rest) := spanChars (isTagChar bracketed) glyphs
  (decodePercent? raw).map fun text => (text, rest)

/-- Read a handle of tags from its exclamation mark on: a name may follow, with a second
exclamation mark. -/
def readHandle? : List Glyph → Option (String × List Glyph)
  | [] => none
  | g :: rest =>
    if g.char = '!' then
      let (name, rest) := spanChars isNameChar rest
      if next (· = '!') rest then some ("!" ++ name ++ "!", rest.drop 1)
      else some ("!" ++ name, rest)
    else none

/-- Whether a handle has two exclamation marks. -/
def isFullHandle (handle : String) : Bool := handle ≠ "!" && handle.endsWith "!"

/-- Read a tag from its exclamation mark on: a whole tag in angle brackets, a handle and what
follows it, or what follows the shortest handle. -/
def readTag? (glyphs : List Glyph) : Option (Token × List Glyph) := do
  if next (· = '<') (glyphs.drop 1) then
    let (text, rest) ← readTagText? true (glyphs.drop 2)
    if text = "" ∨ !next (· = '>') rest then none
    else some (.tag "" text, rest.drop 1)
  else
    let (handle, rest) ← readHandle? glyphs
    let (text, rest) ← readTagText? false rest
    if isFullHandle handle then if text = "" then none else some (.tag handle text, rest)
    else
      let suffix := String.ofList (handle.toList.drop 1) ++ text
      some (if suffix = "" then .tag "" "!" else .tag "!" suffix, rest)

/-- Read a tag and check that it ends there. -/
def readEndedTag? (flow : Bool) (glyphs : List Glyph) : Option (Token × List Glyph) :=
  (readTag? glyphs).filter fun r => wordEnds r.2 || (flow && next (· = ',') r.2)

/-- Read a number of up to nine digits. -/
def readVersionPart? (glyphs : List Glyph) : Option (Nat × List Glyph) :=
  let (digits, rest) := spanChars Char.isDigit glyphs
  if 9 < digits.length then none
  else (Text.readDigits? 10 digits.toList).map fun n => (n, rest)

/-- Read the version of a directive. -/
def readVersion? (glyphs : List Glyph) : Option (Token × List Glyph) := do
  let (major, rest) ← readVersionPart? (dropBlanks glyphs)
  if !next (· = '.') rest then none
  else
    let (minor, rest) ← readVersionPart? (rest.drop 1)
    some (.version major minor, rest)

/-- Read the handle of a directive and what it stands for. -/
def readHandleMeaning? (glyphs : List Glyph) : Option (Token × List Glyph) := do
  let (handle, rest) ← readHandle? (dropBlanks glyphs)
  if !(handle = "!" || isFullHandle handle) || !next isBlank rest then none
  else
    let (meaning, rest) ← readTagText? true (dropBlanks rest)
    if meaning = "" ∨ !wordEnds rest then none
    else some (.handle handle meaning, rest)

/-- Read a directive after its percent sign, up to the end of its line. -/
def readDirective? (glyphs : List Glyph) : Option (Token × List Glyph) := do
  let (name, rest) := spanChars isNameChar glyphs
  if !wordEnds rest then none
  else
    let (token, rest) ←
      if name = "YAML" then readVersion? rest
      else if name = "TAG" then readHandleMeaning? rest
      else none
    some (token, ← finishLine? rest)

end MeshAudit.Yaml

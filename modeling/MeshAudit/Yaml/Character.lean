/-!
# Characters of YAML

The classes of characters on which the structure of a YAML text depends.
-/

namespace MeshAudit.Yaml

/-- The characters that end a line. -/
def isBreak (c : Char) : Bool :=
  c = '\n' ∨ c = '\r' ∨ c = '\u0085' ∨ c = '\u2028' ∨ c = '\u2029'

/-- Blanks inside a line. -/
def isBlank (c : Char) : Bool := c = ' ' ∨ c = '\t'

/-- Blanks inside a line and the characters that end it. -/
def isSpacing (c : Char) : Bool := isBlank c || isBreak c

/-- Characters that may be written as they are. -/
def isPrintable (c : Char) : Bool :=
  let n := c.toNat
  n == 0x0A || (0x20 ≤ n && n ≤ 0x7E) || (0xA0 ≤ n && n ≤ 0xFFFD && n != 0xFEFF) || 0x10000 ≤ n

/-- Characters that a text may hold: the printable ones, tabulators, all line ends, and the mark of
the order of bytes. -/
def isAllowed (c : Char) : Bool :=
  isPrintable c || c = '\t' || c = '\r' || c = '\u0085' || c = '\uFEFF'

/-- Characters of names: ASCII letters and digits, low lines and hyphens. -/
def isNameChar (c : Char) : Bool := c.isAlphanum || c = '_' || c = '-'

/-- Characters that structure a collection written in brackets. -/
def isFlowMark (c : Char) : Bool := ",[]\x7b\x7d".toList.contains c

end MeshAudit.Yaml

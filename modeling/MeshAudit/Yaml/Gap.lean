import MeshAudit.Yaml.Character

/-!
# Gaps between words

The words of a scalar stand on one line or on several. Blanks inside a line are kept, and those
around a line end are not. One line end becomes a blank, and of several the first is dropped.
-/

namespace MeshAudit.Yaml

/-- Blanks and line ends since the last word. -/
structure Gap where
  /-- Whether a line has ended. -/
  broken : Bool := false
  /-- The first line end, unless it was escaped. -/
  first : Option Char := none
  /-- The further line ends, last first. -/
  further : List Char := []
  /-- The blanks before any line end, last first. -/
  blanks : List Char := []
  deriving DecidableEq, Repr

namespace Gap

/-- Whether there is any gap. -/
def isEmpty (gap : Gap) : Bool := !gap.broken && gap.blanks.isEmpty

/-- The gap with one more blank or line end. -/
def add (gap : Gap) (c : Char) : Gap :=
  if isBlank c then if gap.broken then gap else { gap with blanks := c :: gap.blanks }
  else if gap.broken then { gap with further := c :: gap.further }
  else { broken := true, first := some c }

/-- What the gap stands for, last character first. -/
def folded (gap : Gap) : List Char :=
  if gap.broken then
    match gap.first with
    | some '\n' => if gap.further.isEmpty then [' '] else gap.further
    | some c => gap.further ++ [c]
    | none => gap.further
  else gap.blanks

end Gap

end MeshAudit.Yaml

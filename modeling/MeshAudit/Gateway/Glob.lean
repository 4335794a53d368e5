/-!
# Host name patterns

In a host name of a gateway a star stands for any characters but a line break, and every other
character for itself. Matching keeps track of all places of the name that the pattern read so far
can lead to, so its cost is the product of the two lengths.
-/

namespace MeshAudit.Glob

/-- For every place of a name, from its start to its end, whether the pattern so far leads there. -/
abbrev Places := List Bool

/-- Before the pattern is read, only the start is reached. -/
def start (name : List Char) : Places := true :: name.map fun _ => false

/-- A character of the pattern leads one place on, over the same character of the name. -/
def overChar (c : Char) (name : List Char) (places : Places) : Places :=
  false :: List.zipWith (fun d here => here && d == c) name places

/-- A star leads from a place to itself and on to all later ones until a line break. -/
def overStar (reached : Bool) : List Char → Places → Places
  | [], here :: _ => [reached || here]
  | d :: name, here :: places =>
    (reached || here) :: overStar ((reached || here) && d != '\n') name places
  | _, [] => []

/-- Read one more character of the pattern. -/
def advance (name : List Char) (places : Places) (c : Char) : Places :=
  if c = '*' then overStar false name places else overChar c name places

/-- Whether a pattern stands for a name. -/
def matchesChars (pattern name : List Char) : Bool :=
  (pattern.foldl (advance name) (start name)).getLast? == some true

end MeshAudit.Glob

namespace MeshAudit

/-- Whether a host name pattern stands for a host name. -/
def globMatches (pattern name : String) : Bool := Glob.matchesChars pattern.toList name.toList

end MeshAudit

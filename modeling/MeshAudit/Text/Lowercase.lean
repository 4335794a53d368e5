import MeshAudit.Text.CaseTable

/-!
# Lower case

Hostnames are compared without regard to case in any script. A capital sigma becomes the final
form at the end of a word, and the dotted capital I keeps its dot as a combining mark; every
other letter has a lower-case form that does not depend on its neighbours.
-/

namespace MeshAudit.Text

/-- Whether a character lies in one of the given code point ranges. -/
def inRanges (ranges : List (Nat × Nat)) (c : Char) : Bool :=
  ranges.any fun range => range.1 ≤ c.toNat && c.toNat ≤ range.2

/-- A letter with case that takes part in word boundaries. -/
def isCased (c : Char) : Bool := inRanges casedRanges c

/-- A mark that case conditions look through. -/
def isCaseIgnorable (c : Char) : Bool := inRanges caseIgnorableRanges c

/-- The lower-case form of a character that does not depend on its neighbours. -/
def lowerChar (c : Char) : List Char :=
  if c.toNat < 0x80 then [c.toLower]
  else if c = 'İ' then ['i', '\u0307']
  else
    let covers := fun (range : Nat × Nat × Nat × Int) =>
      range.1 ≤ c.toNat && c.toNat ≤ range.2.1 && (c.toNat - range.1) % range.2.2.1 == 0
    match lowercaseRanges.find? covers with
    | some (_, _, _, distance) => [Char.ofNat (c.toNat + distance).toNat]
    | none => [c]

/-- Whether a letter with case comes first once ignorable marks are skipped. -/
def startsCased (cs : List Char) : Bool :=
  match cs.dropWhile isCaseIgnorable with
  | [] => false
  | c :: _ => isCased c

/-- Lower-case the rest of a text, given what stands before it, nearest character first. -/
def lowerAfter (before : List Char) : List Char → List Char
  | [] => []
  | c :: rest =>
    let lowered :=
      if c = 'Σ' then [if startsCased before && !startsCased rest then 'ς' else 'σ']
      else lowerChar c
    lowered ++ lowerAfter (c :: before) rest

/-- The lower-case form of a text. -/
def lowercase (s : String) : String := String.ofList (lowerAfter [] s.toList)

end MeshAudit.Text

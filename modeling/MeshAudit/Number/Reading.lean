import MeshAudit.Number.Binary64

/-!
# Reading double-precision numbers

A decimal number has an optional sign, digits with an optional point among, before or after them,
and an optional power of ten. It is read as the nearest double-precision value.
-/

namespace MeshAudit.Binary64

/-- Split off an optional sign. -/
def splitSign : List Char → Bool × List Char
  | '-' :: rest => (true, rest)
  | '+' :: rest => (false, rest)
  | cs => (false, cs)

/-- Read a power of ten that takes up all of a text; nothing stands for power zero. -/
def readExponent? : List Char → Option Int
  | [] => some 0
  | mark :: rest =>
    if mark = 'e' ∨ mark = 'E' then
      let (negative, digits) := splitSign rest
      if digits.all Char.isDigit then
        (Text.readDigits? 10 digits).map fun n => if negative then -(n : Int) else n
      else none
    else none

/-- Read digits, point and power of ten as a value of a sign. -/
def readMagnitude? (negative : Bool) (cs : List Char) : Option Binary64 := do
  let (whole, rest) := cs.span Char.isDigit
  let (fraction, rest) := match rest with
    | '.' :: tail => tail.span Char.isDigit
    | rest => ([], rest)
  let digits ← Text.readDigits? 10 (whole ++ fraction)
  let power ← readExponent? rest
  some (ofDecimal negative digits (power - fraction.length))

/-- Read a decimal number; one too large is infinite. -/
def readDecimal? (cs : List Char) : Option Binary64 :=
  let (negative, rest) := splitSign cs
  readMagnitude? negative rest

/-- Read a decimal number, or one of the words for the infinities and for no number in any case. -/
def read? (cs : List Char) : Option Binary64 :=
  let (negative, rest) := splitSign cs
  let word := String.ofList (rest.map Char.toLower)
  if word = "inf" ∨ word = "infinity" then some (infinity negative)
  else if word = "nan" then some { nan with negative := negative }
  else readMagnitude? negative rest

end MeshAudit.Binary64

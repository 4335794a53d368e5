import MeshAudit.Number.Reading

/-!
# Plain scalars of YAML

A scalar that is written without quotes is a number, a truth value or nothing when it looks like
one, and else a text. Whole numbers are decimal, or follow a mark for another base; leading zeros
make a text of them.
-/

namespace MeshAudit.Yaml

/-- What a scalar without quotes stands for. -/
inductive Plain where
  /-- Nothing. -/
  | null
  /-- A truth value. -/
  | bool (value : Bool)
  /-- A whole number of sixty-four bits. -/
  | integer (value : Int)
  /-- A whole number that needs up to one hundred and twenty-eight bits. -/
  | wide (value : Int)
  /-- A number with a fractional part. -/
  | float (value : Binary64)
  /-- The text itself. -/
  | text
  deriving DecidableEq, Repr

/-- Whether a text is a word for nothing. -/
def isNullWord (s : String) : Bool := s = "null" ∨ s = "Null" ∨ s = "NULL" ∨ s = "~"

/-- The truth value of a word. -/
def boolOfWord? (s : String) : Option Bool :=
  if s = "true" ∨ s = "True" ∨ s = "TRUE" then some true
  else if s = "false" ∨ s = "False" ∨ s = "FALSE" then some false
  else none

/-- Whether a text has digits only, after an optional sign, and starts with a superfluous zero. -/
def hasLeadingZero (cs : List Char) : Bool :=
  let digits := match cs with
    | '-' :: rest => rest
    | '+' :: rest => rest
    | rest => rest
  match digits with
  | '0' :: c :: rest => (c :: rest).all Char.isDigit
  | _ => false

/-- Base of a number by the mark before its digits. -/
def markedBase? : List Char → Option (Nat × List Char)
  | '0' :: 'x' :: rest => some (16, rest)
  | '0' :: 'o' :: rest => some (8, rest)
  | '0' :: 'b' :: rest => some (2, rest)
  | _ => none

/-- Read digits after a mark of a base, or plain decimal digits. -/
def readNatural? (cs : List Char) : Option Nat :=
  match markedBase? cs with
  | some (base, digits) => Text.readDigits? base digits
  | none => if hasLeadingZero cs then none else Text.readDigits? 10 cs

/-- Read a whole number, where a plus sign is allowed in front. -/
def readInteger? : List Char → Option Int
  | '+' :: rest => (readNatural? rest).map Int.ofNat
  | '-' :: rest => (readNatural? rest).map fun n => -(n : Int)
  | cs => (readNatural? cs).map Int.ofNat

/-- Read a finite number with a fractional part, or a word for an infinity or for no number. -/
def readFloat? (s : String) : Option Binary64 :=
  if s = ".inf" ∨ s = ".Inf" ∨ s = ".INF" ∨ s = "+.inf" ∨ s = "+.Inf" ∨ s = "+.INF" then
    some (Binary64.infinity false)
  else if s = "-.inf" ∨ s = "-.Inf" ∨ s = "-.INF" then some (Binary64.infinity true)
  else if s = ".nan" ∨ s = ".NaN" ∨ s = ".NAN" then some Binary64.nan
  else (Binary64.readDecimal? s.toList).filter Binary64.isFinite

/-- What a whole number stands for by its size, if any scalar can hold it. -/
def sizedInteger? (n : Int) : Option Plain :=
  if Text.minInt64 ≤ n ∧ n ≤ Text.maxNat64 then some (.integer n)
  else if -(Nat.pow 2 127 : Int) ≤ n ∧ n < Nat.pow 2 128 then some (.wide n)
  else none

/-- What a scalar without quotes stands for. -/
def resolvePlain (s : String) : Plain :=
  if s = "" ∨ isNullWord s then .null
  else
    match boolOfWord? s with
    | some b => .bool b
    | none =>
      match (readInteger? s.toList).bind sizedInteger? with
      | some plain => plain
      | none =>
        if hasLeadingZero s.toList then .text
        else
          match readFloat? s with
          | some x => .float x
          | none => .text

end MeshAudit.Yaml

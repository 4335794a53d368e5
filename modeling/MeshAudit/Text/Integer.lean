/-!
# Integers in text

Reading whole numbers of bounded size. A text is a number only when all of it is: an optional
sign, where signs are allowed, and then digits of the base.
-/

namespace MeshAudit.Text

/-- The value of a digit in bases up to sixteen, in either case. -/
def digitValue? (c : Char) : Option Nat :=
  if '0' ≤ c ∧ c ≤ '9' then some (c.toNat - '0'.toNat)
  else if 'a' ≤ c ∧ c ≤ 'f' then some (c.toNat - 'a'.toNat + 10)
  else if 'A' ≤ c ∧ c ≤ 'F' then some (c.toNat - 'A'.toNat + 10)
  else none

/-- The value of a non-empty run of digits of a base. -/
def readDigits? (base : Nat) (cs : List Char) : Option Nat :=
  if cs.isEmpty then none
  else cs.foldlM (fun n c => do
    let d ← digitValue? c
    if d < base then some (n * base + d) else none) 0

/-- A number that may carry one sign of either kind. -/
def readSigned? (base : Nat) : List Char → Option Int
  | '+' :: cs => (readDigits? base cs).map Int.ofNat
  | '-' :: cs => (readDigits? base cs).map fun n => -(n : Int)
  | cs => (readDigits? base cs).map Int.ofNat

/-- Smallest signed 64-bit integer. -/
def minInt64 : Int := -(Nat.pow 2 63 : Int)

/-- Largest signed 64-bit integer. -/
def maxInt64 : Int := (Nat.pow 2 63 : Int) - 1

/-- Largest unsigned 64-bit integer. -/
def maxNat64 : Nat := Nat.pow 2 64 - 1

/-- Whether an integer is a signed 64-bit integer. -/
def fitsInt64 (n : Int) : Bool := minInt64 ≤ n && n ≤ maxInt64

/-- A decimal number with an optional sign, in the signed 64-bit range. -/
def readInt64? (cs : List Char) : Option Int :=
  (readSigned? 10 cs).filter fitsInt64

end MeshAudit.Text

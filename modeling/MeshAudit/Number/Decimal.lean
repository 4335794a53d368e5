import MeshAudit.Number.Binary64

/-!
# Decimal text of double-precision numbers

A number is written with the fewest decimal digits that read back as the same value, and of the
shortest ones with those nearest to it. Two forms are in use: the positional form writes every
place, and the scientific form turns to a power of ten outside the usual sizes.
-/

namespace MeshAudit.Binary64

/-- Whether one ratio is at most another. -/
def ratioLe (a b : Nat × Nat) : Bool := a.1 * b.2 ≤ b.1 * a.2

/-- Whether a positive ratio reads back as a given positive finite value: it lies between the
midpoints to the neighbouring values, which belong to the even one. -/
def readsBack (x : Binary64) (candidate : Nat × Nat) : Bool :=
  let m := x.significand
  let quarter := x.exponent - 2
  let below := if m = fieldUnit ∧ x.magnitude ≠ fieldUnit then 4 * m - 1 else 4 * m - 2
  let low := powerRatio 2 below quarter
  let high := powerRatio 2 (4 * m + 2) quarter
  if m % 2 = 0 then ratioLe low candidate && ratioLe candidate high
  else !ratioLe candidate low && !ratioLe high candidate

/-- Number of places before the point of a positive ratio; for a ratio below one tenth, minus the
number of zeros after the point. No finite value needs more than four hundred places. -/
def places (num den : Nat) : Int := (digitCount (num * Nat.pow 10 400 / den) : Int) - 400

/-- Digits and power of ten with the trailing zeros of the digits moved into the power. -/
def dropZeros : Nat → Nat → Int → Nat × Int
  | 0, digits, power => (digits, power)
  | fuel + 1, digits, power =>
    if digits ≠ 0 ∧ digits % 10 = 0 then dropZeros fuel (digits / 10) (power + 1)
    else (digits, power)

/-- The nearer of the two neighbours on the grid of a power of ten that reads back. -/
def onGrid? (x : Binary64) (power : Int) : Option Nat :=
  let (num, den) := x.ratio
  let (n, d) := if 0 ≤ power then (num, den * Nat.pow 10 power.toNat)
    else (num * Nat.pow 10 (-power).toNat, den)
  let below := n / d
  let hit := fun digits => readsBack x (powerRatio 10 digits power)
  let nearer := roundHalfEven n d
  let farther := if nearer = below then below + 1 else below
  if hit nearer then some nearer else if hit farther then some farther else none

/-- Shortest digits and power of ten of a finite value's magnitude; seventeen digits suffice. -/
def shortest (x : Binary64) : Nat × Int :=
  if x.magnitude = 0 then (0, 0)
  else
    let (num, den) := x.ratio
    let size := places num den
    match (List.range 17).findSome? fun (k : Nat) =>
        (onGrid? x (size - (k + 1))).map fun digits => (digits, size - (k + 1)) with
    | some (digits, power) => dropZeros 20 digits power
    | none => (x.significand, 0)

/-- Digits as characters. -/
def digitText (digits : Nat) : List Char := Nat.toDigits 10 digits

/-- Positional text of digits and a power of ten, without a point for whole numbers. -/
def positional (digits : Nat) (power : Int) : List Char :=
  let text := digitText digits
  if 0 ≤ power then text ++ List.replicate power.toNat '0'
  else
    let after := (-power).toNat
    if after < text.length then
      text.take (text.length - after) ++ '.' :: text.drop (text.length - after)
    else '0' :: '.' :: List.replicate (after - text.length) '0' ++ text

/-- The sign in front of a number's digits. -/
def signText (x : Binary64) : List Char := if x.negative then ['-'] else []

/-- Text of a value in positional form, whatever its size. -/
def positionalText (x : Binary64) : String :=
  if x.isNaN then "NaN"
  else
    let digits := if x.isFinite then positional x.shortest.1 x.shortest.2 else "inf".toList
    String.ofList (x.signText ++ digits)

/-- Text of a finite value that always shows a point or a power of ten: positional from one
hundred-thousandth up to sixteen places, scientific outside. -/
def scientificText (x : Binary64) : String :=
  let (digits, power) := x.shortest
  let text := digitText digits
  let size := text.length + power
  let body :=
    if digits = 0 then "0.0".toList
    else if 0 ≤ power ∧ size ≤ 16 then positional digits power ++ ['.', '0']
    else if power < 0 ∧ -5 < size ∧ size ≤ 16 then positional digits power
    else
      let mantissa := match text with
        | [d] => [d]
        | d :: rest => d :: '.' :: rest
        | [] => []
      mantissa ++ 'e' :: (toString (size - 1)).toList
  String.ofList (x.signText ++ body)

end MeshAudit.Binary64

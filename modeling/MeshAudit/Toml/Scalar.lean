import MeshAudit.Document.Value
import MeshAudit.Number.Reading

/-!
# TOML scalars

Numbers, truth values and times. Digits may be grouped by low lines. Times are kept as texts in
their shortest form.
-/

namespace MeshAudit.Toml

/-- Digits without the low lines between them. -/
def ungrouped? (isDigit : Char → Bool) : List Char → Option (List Char)
  | [] => none
  | [c] => if isDigit c then some [c] else none
  | c :: '_' :: rest => if isDigit c then (ungrouped? isDigit rest).map (c :: ·) else none
  | c :: rest => if isDigit c then (ungrouped? isDigit rest).map (c :: ·) else none

/-- Whether digits have a superfluous zero in front. -/
def isPadded : List Char → Bool
  | '0' :: _ :: _ => true
  | _ => false

/-- Whether a character is a digit in bases up to sixteen. -/
def isHexDigit (c : Char) : Bool := (Text.digitValue? c).isSome

/-- Read a whole number with a mark of its base. -/
def markedInteger? : List Char → Option Int
  | '0' :: 'x' :: cs => digits? 16 cs
  | '0' :: 'o' :: cs => digits? 8 cs
  | '0' :: 'b' :: cs => digits? 2 cs
  | _ => none
where
  /-- Digits of a base. -/
  digits? (base : Nat) (cs : List Char) : Option Int := do
    some (← Text.readDigits? base (← ungrouped? isHexDigit cs) : Nat)

/-- Read a decimal whole number. -/
def decimalInteger? (cs : List Char) : Option Int := do
  let (negative, cs) := Binary64.splitSign cs
  let digits ← ungrouped? Char.isDigit cs
  let n ← Text.readDigits? 10 digits
  if isPadded digits then none else some (if negative then -(n : Int) else n)

/-- Read a whole number of sixty-four bits with a sign. -/
def integer? (cs : List Char) : Option Int :=
  ((markedInteger? cs).or (decimalInteger? cs)).filter Text.fitsInt64

/-- Split a text at the first character of a kind, which is dropped. -/
def splitAtFirst (kind : Char → Bool) (cs : List Char) : List Char × Option (List Char) :=
  match cs.span fun c => !kind c with
  | (head, []) => (head, none)
  | (head, _ :: tail) => (head, some tail)

/-- Read a number with a point or a power of ten, or a word for one that is not finite. -/
def float? (cs : List Char) : Option Binary64 := do
  let (negative, body) := Binary64.splitSign cs
  if body = "inf".toList then some (Binary64.infinity negative)
  else if body = "nan".toList then some { Binary64.nan with negative := negative }
  else
    let (mantissa, power) := splitAtFirst (fun c => c = 'e' ∨ c = 'E') body
    let (whole, fraction) := splitAtFirst (· = '.') mantissa
    if power.isNone ∧ fraction.isNone then none
    else
      let whole ← ungrouped? Char.isDigit whole
      let fraction ← match fraction with
        | some digits => (ungrouped? Char.isDigit digits).map ('.' :: ·)
        | none => some []
      let power ← match power with
        | some cs =>
          let (down, digits) := Binary64.splitSign cs
          (ungrouped? Char.isDigit digits).map fun digits =>
            'e' :: (if down then '-' :: digits else digits)
        | none => some []
      if isPadded whole then none
      else
        let x ← Binary64.readMagnitude? negative (whole ++ fraction ++ power)
        if x.isFinite then some x else none

/-- Take a number of so many decimal digits. -/
def takeNumber? (width : Nat) (cs : List Char) : Option (Nat × List Char) :=
  let digits := cs.take width
  if digits.length = width ∧ digits.all Char.isDigit then
    (Text.readDigits? 10 digits).map fun n => (n, cs.drop width)
  else none

/-- Take a character. -/
def take? (c : Char) : List Char → Option (List Char)
  | [] => none
  | d :: rest => if c = d then some rest else none

/-- Number of days in a month. -/
def daysIn (year month : Nat) : Nat :=
  if month = 2 then
    if year % 4 = 0 ∧ (year % 100 ≠ 0 ∨ year % 400 = 0) then 29 else 28
  else if month = 4 ∨ month = 6 ∨ month = 9 ∨ month = 11 then 30
  else 31

/-- Decimal digits with zeros in front up to a width. -/
def padded (width n : Nat) : List Char :=
  let digits := Nat.toDigits 10 n
  List.replicate (width - digits.length) '0' ++ digits

/-- Read a date and write it in its form. -/
def date? (cs : List Char) : Option (List Char × List Char) := do
  let (year, cs) ← takeNumber? 4 cs
  let (month, cs) ← takeNumber? 2 (← take? '-' cs)
  let (day, cs) ← takeNumber? 2 (← take? '-' cs)
  if 1 ≤ month ∧ month ≤ 12 ∧ 1 ≤ day ∧ day ≤ daysIn year month then
    some (padded 4 year ++ '-' :: padded 2 month ++ '-' :: padded 2 day, cs)
  else none

/-- Read a fraction of a second and write it with at most nine digits and no zero at its end. -/
def fraction? : List Char → Option (List Char × List Char)
  | '.' :: cs =>
    let (digits, rest) := cs.span Char.isDigit
    let kept := ((digits.take 9).reverse.dropWhile (· = '0')).reverse
    if digits.isEmpty then none
    else some (if kept.isEmpty then [] else '.' :: kept, rest)
  | cs => some ([], cs)

/-- Read a time of day and write it in its form. -/
def time? (cs : List Char) : Option (List Char × List Char) := do
  let (hour, cs) ← takeNumber? 2 cs
  let (minute, cs) ← takeNumber? 2 (← take? ':' cs)
  let (second, cs) ← takeNumber? 2 (← take? ':' cs)
  let (fraction, cs) ← fraction? cs
  if hour ≤ 23 ∧ minute ≤ 59 ∧ second ≤ 60 then
    some (padded 2 hour ++ ':' :: padded 2 minute ++ ':' :: padded 2 second ++ fraction, cs)
  else none

/-- Read a distance from the standard time and write it in its form. -/
def offset? : List Char → Option (List Char)
  | [] => some []
  | ['Z'] => some ['Z']
  | ['z'] => some ['Z']
  | sign :: cs => do
    let (hour, cs) ← takeNumber? 2 cs
    let (minute, cs) ← takeNumber? 2 (← take? ':' cs)
    if (sign = '+' ∨ sign = '-') ∧ hour ≤ 23 ∧ minute ≤ 59 ∧ cs.isEmpty then
      let sign := if hour = 0 ∧ minute = 0 then '+' else sign
      some (sign :: padded 2 hour ++ ':' :: padded 2 minute)
    else none

/-- Read a date, a time of day, or both with or without a distance from the standard time. -/
def moment? (cs : List Char) : Option String := do
  match date? cs with
  | none =>
    let (time, rest) ← time? cs
    if rest.isEmpty then some (String.ofList time) else none
  | some (date, []) => some (String.ofList date)
  | some (date, mark :: rest) =>
    let (time, rest) ← time? rest
    let offset ← offset? rest
    if mark = 'T' ∨ mark = 't' ∨ mark = ' ' then some (String.ofList (date ++ 'T' :: time ++ offset))
    else none

/-- The value of a scalar without quotes. -/
def scalar? (cs : List Char) : Option Value :=
  if cs = "true".toList then some (.bool true)
  else if cs = "false".toList then some (.bool false)
  else
    match integer? cs with
    | some n => some (.integer n)
    | none =>
      match float? cs with
      | some x => some (.number (.float x))
      | none => (moment? cs).map .string

/-- Characters of scalars without quotes. -/
def isScalarChar (c : Char) : Bool := c.isAlphanum || "+-_.:".toList.contains c

/-- Read a scalar without quotes. A blank may stand between a date and a time of day. -/
def readScalar? (cs : List Char) : Option (Value × List Char) :=
  let (head, rest) := cs.span isScalarChar
  match rest with
  | ' ' :: tail =>
    if (date? head).any (fun r => r.2.isEmpty) ∧ tail.head?.any Char.isDigit then
      let (time, rest) := tail.span isScalarChar
      (scalar? (head ++ ' ' :: time)).map fun value => (value, rest)
    else (scalar? head).map fun value => (value, rest)
  | _ => (scalar? head).map fun value => (value, rest)

end MeshAudit.Toml

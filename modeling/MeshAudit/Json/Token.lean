import MeshAudit.Document.Value

/-!
# JSON tokens

A JSON text is a sequence of brackets, separators and scalars with blanks between them. Numbers
without point and power of ten are whole as long as they fit into sixty-four bits; the others are
read as their leading digits, as many as fit, and scaled by a power of ten with one rounding each.
-/

namespace MeshAudit.Json

/-- A bracket, a separator or a scalar. -/
inductive Token where
  /-- Start of a list. -/
  | openArray
  /-- End of a list. -/
  | closeArray
  /-- Start of an object. -/
  | openObject
  /-- End of an object. -/
  | closeObject
  /-- Separator of items and of fields. -/
  | comma
  /-- Separator of a name and its value. -/
  | colon
  /-- A text, which may also be a name. -/
  | text (value : String)
  /-- Any other scalar. -/
  | scalar (value : Value)

/-- Four hexadecimal digits as a number. -/
def readUnit? (a b c d : Char) : Option Nat := Text.readDigits? 16 [a, b, c, d]

/-- Read the inside of a quoted text up to its closing quote, collecting it in reverse. Control
characters must be escaped, and surrogate escapes must come in pairs. -/
def readText? (done : List Char) : List Char → Option (String × List Char)
  | [] => none
  | '"' :: rest => some (String.ofList done.reverse, rest)
  | '\\' :: 'u' :: a :: b :: c :: d :: rest =>
    match readUnit? a b c d with
    | none => none
    | some high =>
      if high < 0xD800 ∨ 0xDFFF < high then readText? (Char.ofNat high :: done) rest
      else
        match rest with
        | '\\' :: 'u' :: e :: f :: g :: h :: tail =>
          match readUnit? e f g h with
          | none => none
          | some low =>
            if high < 0xDC00 ∧ 0xDC00 ≤ low ∧ low ≤ 0xDFFF then
              readText? (Char.ofNat (0x10000 + (high - 0xD800) * 0x400 + (low - 0xDC00)) :: done) tail
            else none
        | _ => none
  | '\\' :: '"' :: rest => readText? ('"' :: done) rest
  | '\\' :: '\\' :: rest => readText? ('\\' :: done) rest
  | '\\' :: '/' :: rest => readText? ('/' :: done) rest
  | '\\' :: 'b' :: rest => readText? ('\x08' :: done) rest
  | '\\' :: 'f' :: rest => readText? ('\x0c' :: done) rest
  | '\\' :: 'n' :: rest => readText? ('\n' :: done) rest
  | '\\' :: 'r' :: rest => readText? ('\r' :: done) rest
  | '\\' :: 't' :: rest => readText? ('\t' :: done) rest
  | c :: rest => if c.toNat < 0x20 ∨ c = '\\' then none else readText? (c :: done) rest

/-- Add digits to a significand while it stays a 64-bit number, and count those added. -/
def absorb (significand added : Nat) : List Char → Nat × Nat
  | [] => (significand, added)
  | c :: rest =>
    let next := significand * 10 + (c.toNat - '0'.toNat)
    if Text.maxNat64 < next then (significand, added) else absorb next (added + 1) rest

/-- A power of ten, rounded. -/
def powerOfTen (n : Nat) : Binary64 := Binary64.ofDecimal false 1 n

/-- Scale by a power of ten in steps of at most three hundred and eight. A result too large to be
finite is none. -/
def scale? : Nat → Binary64 → Int → Option Binary64
  | 0, x, _ => some (Binary64.zero x.negative)
  | steps + 1, x, power =>
    if x.magnitude = 0 then some x
    else if 308 < power then none
    else if 0 ≤ power then some (x.mul (powerOfTen power.toNat)) |>.filter Binary64.isFinite
    else if -308 ≤ power then some (x.div (powerOfTen (-power).toNat))
    else scale? steps (x.div (powerOfTen 308)) (power + 308)

/-- The number with the given sign, digits before and after the point, and power of ten. -/
def number? (negative : Bool) (whole : List Char) (fraction : Option (List Char))
    (power : Option Int) : Option Number :=
  let (significand, used) := absorb 0 0 whole
  match fraction, power with
  | none, none =>
    if used = whole.length ∧
        (negative = false ∨ (significand ≠ 0 ∧ significand ≤ Nat.pow 2 63)) then
      some (.integer (if negative then -(significand : Int) else significand))
    else
      (scale? 4 (Binary64.ofRatio negative significand 1) (whole.length - used : Nat)).map .float
  | _, _ =>
    let (significand, added) := absorb significand 0 (fraction.getD [])
    let power := power.getD 0 + (whole.length - used : Nat) - added
    (scale? 4 (Binary64.ofRatio negative significand 1) power).map .float

/-- The leading decimal digits of a text and what follows them. -/
def spanDigits (cs : List Char) : List Char × List Char := cs.span Char.isDigit

/-- Read a power of ten after its mark: an optional sign and at least one digit. -/
def readPower? (cs : List Char) : Option (Int × List Char) :=
  let (negative, cs) := match cs with
    | '-' :: rest => (true, rest)
    | '+' :: rest => (false, rest)
    | rest => (false, rest)
  let (digits, rest) := spanDigits cs
  (Text.readDigits? 10 digits).map fun n => (if negative then -(n : Int) else n, rest)

/-- Read a number: digits without a superfluous zero, then optionally a point with digits and a
power of ten. -/
def readNumber? (cs : List Char) : Option (Number × List Char) := do
  let (negative, cs) := match cs with
    | '-' :: rest => (true, rest)
    | rest => (false, rest)
  let (whole, rest) := spanDigits cs
  if whole.isEmpty ∨ (whole.head? = some '0' ∧ whole.length ≠ 1) then none
  else
    let (fraction, rest) ← match rest with
      | '.' :: tail =>
        let (digits, tail) := spanDigits tail
        if digits.isEmpty then none else some (some digits, tail)
      | rest => some (none, rest)
    let (power, rest) ← match rest with
      | 'e' :: tail => (readPower? tail).map fun r => (some r.1, r.2)
      | 'E' :: tail => (readPower? tail).map fun r => (some r.1, r.2)
      | rest => some (none, rest)
    let n ← number? negative whole fraction power
    some (n, rest)

/-- Read the first token of a text that starts with no blank. -/
def readToken? : List Char → Option (Token × List Char)
  | '[' :: rest => some (.openArray, rest)
  | ']' :: rest => some (.closeArray, rest)
  | '{' :: rest => some (.openObject, rest)
  | '}' :: rest => some (.closeObject, rest)
  | ',' :: rest => some (.comma, rest)
  | ':' :: rest => some (.colon, rest)
  | '"' :: rest => (readText? [] rest).map fun r => (.text r.1, r.2)
  | 'n' :: 'u' :: 'l' :: 'l' :: rest => some (.scalar .null, rest)
  | 't' :: 'r' :: 'u' :: 'e' :: rest => some (.scalar (.bool true), rest)
  | 'f' :: 'a' :: 'l' :: 's' :: 'e' :: rest => some (.scalar (.bool false), rest)
  | cs => (readNumber? cs).map fun r => (.scalar (.number r.1), r.2)

/-- The blanks of JSON. -/
def isBlank (c : Char) : Bool := c = ' ' ∨ c = '\n' ∨ c = '\t' ∨ c = '\r'

/-- The tokens of a text, at most as many as the first argument. -/
def tokensUpTo : Nat → List Char → Option (List Token)
  | 0, cs => if (cs.dropWhile isBlank).isEmpty then some [] else none
  | count + 1, cs =>
    match cs.dropWhile isBlank with
    | [] => some []
    | c :: rest => do
      let (token, rest) ← readToken? (c :: rest)
      let tokens ← tokensUpTo count rest
      some (token :: tokens)

/-- The tokens of a text. Every token takes a character, so a text has no more tokens than
characters. -/
def tokens? (cs : List Char) : Option (List Token) := tokensUpTo cs.length cs

end MeshAudit.Json

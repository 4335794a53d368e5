/-!
# Text from bytes

Files hold bytes. Those of a text in UTF-8 are read as its characters. Where bytes are no character,
the longest run that could have started one is read as a replacement character.
-/

namespace MeshAudit.Text

/-- The character for bytes that are no character. -/
def replacement : Char := '\uFFFD'

/-- Number of bytes that follow a first byte, with the range of the first of them. -/
def tailsAfter? (b : UInt8) : Option (Nat × UInt8 × UInt8) :=
  if b ≤ 0x7F then some (0, 0x80, 0xBF)
  else if 0xC2 ≤ b ∧ b ≤ 0xDF then some (1, 0x80, 0xBF)
  else if b = 0xE0 then some (2, 0xA0, 0xBF)
  else if b = 0xED then some (2, 0x80, 0x9F)
  else if 0xE1 ≤ b ∧ b ≤ 0xEF then some (2, 0x80, 0xBF)
  else if b = 0xF0 then some (3, 0x90, 0xBF)
  else if 0xF1 ≤ b ∧ b ≤ 0xF3 then some (3, 0x80, 0xBF)
  else if b = 0xF4 then some (3, 0x80, 0x8F)
  else none

/-- The bytes that go on with a character, up to a number of them. -/
def takeTails : Nat → UInt8 → UInt8 → List UInt8 → List UInt8
  | count + 1, low, high, b :: rest =>
    if low ≤ b ∧ b ≤ high then b :: takeTails count 0x80 0xBF rest else []
  | _, _, _, _ => []

/-- The character of a first byte and the bytes that follow it. -/
def charOfBytes (b : UInt8) (tails : List UInt8) : Char :=
  let lead := match tails.length with
    | 0 => b.toNat
    | 1 => b.toNat % 0x20
    | 2 => b.toNat % 0x10
    | _ => b.toNat % 0x08
  Char.ofNat (tails.foldl (fun n tail => n * 0x40 + tail.toNat % 0x40) lead)

/-- The characters of bytes, with replacement characters where there are none. -/
def decode : List UInt8 → List Char
  | [] => []
  | b :: rest =>
    match tailsAfter? b with
    | none => replacement :: decode rest
    | some (count, low, high) =>
      let tails := takeTails count low high rest
      let c := if tails.length = count then charOfBytes b tails else replacement
      c :: decode (rest.drop tails.length)
termination_by bytes => bytes.length
decreasing_by all_goals (simp only [List.length_drop, List.length_cons]; omega)

end MeshAudit.Text

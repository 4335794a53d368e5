import MeshAudit.Yaml.Character
import MeshAudit.Yaml.Scalar

/-!
# Writing YAML texts

A text is written without quotes where that reads back as the same text. Else it is put between
single quotes, or in double quotes with escapes if it holds characters that cannot be shown. A text
of several lines is written as a block of its own lines, unless its blanks would get lost there.
-/

namespace MeshAudit.Yaml

/-- Whether a text is followed by a blank, a line end or nothing. -/
def blankNext : List Char → Bool
  | [] => true
  | c :: _ => isBlank c || isBreak c || c = '\x00'

/-- Whether a text starts like structure rather than like a scalar. -/
def startsLikeStructure : List Char → Bool
  | '-' :: '-' :: '-' :: _ => true
  | '.' :: '.' :: '.' :: _ => true
  | '-' :: rest => blankNext rest
  | '?' :: rest => blankNext rest
  | ':' :: rest => blankNext rest
  | c :: _ => "#,[]\x7b\x7d&*!|>'\"%@\x60".toList.contains c
  | [] => false

/-- Whether a text that follows a character has a mark of structure: a colon before a blank, or a
number sign after one. -/
def hasInnerMark (before : Char) : List Char → Bool
  | [] => false
  | c :: rest =>
    (c = ':' && blankNext rest) || (c = '#' && blankNext [before]) || hasInnerMark c rest

/-- Whether a text has two neighbours of the given kinds. -/
def hasNeighbours (first second : Char → Bool) (cs : List Char) : Bool :=
  (cs.zip (cs.drop 1)).any fun pair => first pair.1 && second pair.2

/-- Whether a text starts or ends with a character of a kind. -/
def atEnds (kind : Char → Bool) (cs : List Char) : Bool :=
  cs.head?.any kind || cs.getLast?.any kind

/-- A blank that is no tabulator. -/
def isSpace (c : Char) : Bool := c = ' '

/-- Whether double quotes alone can hold a text. -/
def needsEscapes (cs : List Char) : Bool :=
  cs.any (fun c => !isPrintable c) || hasNeighbours isSpace isBreak cs

/-- Whether a text keeps its form without quotes. -/
def plainAllowed (cs : List Char) : Bool :=
  !(cs.any isBreak || atEnds isSpace cs || needsEscapes cs || startsLikeStructure cs ||
    match cs with
    | [] => false
    | c :: rest => hasInnerMark c rest)

/-- Whether single quotes can hold a text. -/
def singleAllowed (cs : List Char) : Bool :=
  !(needsEscapes cs || hasNeighbours isBreak isSpace cs)

/-- Whether a block of lines can hold a text. -/
def blockAllowed (cs : List Char) : Bool :=
  !(needsEscapes cs || cs.getLast?.any isSpace)

/-- The forms of a written text. -/
inductive Style where
  /-- Without quotes. -/
  | plain
  /-- Between single quotes. -/
  | single
  /-- Between double quotes, with escapes. -/
  | double
  /-- As a block of lines. -/
  | block
  deriving DecidableEq, Repr

/-- Whether a text without quotes reads back as a text that other readers agree on. -/
def readsAsText (s : String) : Bool := resolvePlain s = .text && !hasLeadingZero s.toList

/-- The form in which a text is written. -/
def styleOf (s : String) : Style :=
  let cs := s.toList
  if cs.contains '\n' then if blockAllowed cs then .block else .double
  else if readsAsText s && plainAllowed cs then .plain
  else if singleAllowed cs then .single
  else .double

/-- The blanks before a column. -/
def indentation (column : Nat) : List Char := List.replicate column ' '

/-- The inside of single quotes, where the line after a break is indented. A line feed never comes
here, since a text that holds one is written as a block or between double quotes. -/
def singleInside (column : Nat) (afterBreak : Bool) : List Char → List Char
  | [] => if afterBreak then indentation column else []
  | c :: rest =>
    if isBreak c then c :: singleInside column true rest
    else
      (if afterBreak then indentation column else []) ++
        (if c = '\'' then ['\'', '\''] else [c]) ++ singleInside column false rest

/-- A number in upper-case hexadecimal digits of a width. -/
def hexText (width n : Nat) : List Char :=
  let digits := (Nat.toDigits 16 n).map Char.toUpper
  List.replicate (width - digits.length) '0' ++ digits

/-- A character between double quotes. -/
def escaped (c : Char) : List Char :=
  match c with
  | '\x00' => ['\\', '0']
  | '\x07' => ['\\', 'a']
  | '\x08' => ['\\', 'b']
  | '\t' => ['\\', 't']
  | '\n' => ['\\', 'n']
  | '\x0b' => ['\\', 'v']
  | '\x0c' => ['\\', 'f']
  | '\r' => ['\\', 'r']
  | '\x1b' => ['\\', 'e']
  | '"' => ['\\', '"']
  | '\\' => ['\\', '\\']
  | '\u0085' => ['\\', 'N']
  | '\u2028' => ['\\', 'L']
  | '\u2029' => ['\\', 'P']
  | c =>
    if isPrintable c then [c]
    else if c.toNat ≤ 0xFF then '\\' :: 'x' :: hexText 2 c.toNat
    else if c.toNat ≤ 0xFFFF then '\\' :: 'u' :: hexText 4 c.toNat
    else '\\' :: 'U' :: hexText 8 c.toNat

/-- The lines of a block, each that is not empty indented to a column. -/
def blockLines (column : Nat) (atStart : Bool) : List Char → List Char
  | [] => []
  | c :: rest =>
    if isBreak c then c :: blockLines column true rest
    else (if atStart then indentation column else []) ++ c :: blockLines column false rest

/-- The marks after the bar of a block: the indentation where the text itself starts with a blank,
and what happens to the line breaks at its end. -/
def blockHeader (cs : List Char) : List Char :=
  let indent := if cs.head?.any fun c => isSpace c || isBreak c then ['2'] else []
  let chomp := match cs.reverse with
    | last :: before :: _ =>
      if !isBreak last then ['-'] else if isBreak before then ['+'] else []
    | [last] => if isBreak last then ['+'] else ['-']
    | [] => ['-']
  '|' :: indent ++ chomp

/-- A text in its form, with further lines at a column, up to the end of its last line. -/
def writeText (column : Nat) (s : String) : List Char :=
  let cs := s.toList
  match styleOf s with
  | .plain => cs ++ ['\n']
  | .single => '\'' :: singleInside column false cs ++ ['\'', '\n']
  | .double => '"' :: cs.flatMap escaped ++ ['"', '\n']
  | .block =>
    let lines := blockHeader cs ++ '\n' :: blockLines column true cs
    if cs.getLast?.any isBreak then lines else lines ++ ['\n']

end MeshAudit.Yaml

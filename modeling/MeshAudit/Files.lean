import MeshAudit.Text.Utf8

/-!
# Files

The files that the program can see. Reading them is left to the caller, so that all that is done
with their content is a function of it.
-/

namespace MeshAudit

/-- A file. -/
structure StoredFile where
  /-- Its content. -/
  bytes : List UInt8

/-- What is found at a path. -/
abbrev FileTree := String → Option StoredFile

namespace StoredFile

/-- The file with a text. -/
def ofText (text : String) : StoredFile := ⟨text.toUTF8.toList⟩

/-- The text of a file, if its bytes are one. -/
def text? (file : StoredFile) : Option String := String.fromUTF8? ⟨file.bytes.toArray⟩

/-- The text of a file without the mark of the order of bytes, with replacement characters where
its bytes are none. -/
def readableText (file : StoredFile) : String :=
  match Text.decode file.bytes with
  | '\uFEFF' :: rest => String.ofList rest
  | cs => String.ofList cs

end StoredFile

/-- The last name of a path. -/
def lastName? (path : String) : Option String :=
  ((path.splitOn "/").filter fun name => name ≠ "" ∧ name ≠ ".").getLast?

/-- The part of the last name of a path after its last point, if something is before that. -/
def extension? (path : String) : Option String := do
  let name ← lastName? path
  let (tail, head) := name.toList.reverse.span (· ≠ '.')
  if head.length ≤ 1 ∨ name = ".." then none else some (String.ofList tail.reverse)

end MeshAudit

/-!
# YAML tokens

A YAML text is a sequence of tokens in which indentation has been turned into brackets: the start
of a block sequence or mapping is a token of its own, and so is its end.
-/

namespace MeshAudit.Yaml

/-- How a scalar is written. -/
inductive ScalarForm where
  /-- Without quotes. -/
  | plain
  /-- As a block of lines that are kept. -/
  | literal
  /-- Between quotes, or as a block of lines that are joined. -/
  | other
  deriving DecidableEq, Repr

/-- An element of the structure of a text. -/
inductive Token where
  /-- Directive for a version of the language. -/
  | version (major minor : Nat)
  /-- Directive for a handle of tags and what it stands for. -/
  | handle (name expansion : String)
  /-- Mark before a document. -/
  | documentStart
  /-- Mark after a document. -/
  | documentEnd
  /-- Start of a sequence by indentation. -/
  | sequenceStart
  /-- Start of a mapping by indentation. -/
  | mappingStart
  /-- End of a sequence or mapping by indentation. -/
  | blockEnd
  /-- Mark before an item of a sequence. -/
  | entry
  /-- Start of a sequence in brackets. -/
  | flowSequenceStart
  /-- End of a sequence in brackets. -/
  | flowSequenceEnd
  /-- Start of a mapping in braces. -/
  | flowMappingStart
  /-- End of a mapping in braces. -/
  | flowMappingEnd
  /-- Separator of items in brackets or braces. -/
  | flowEntry
  /-- Mark before a key. -/
  | key
  /-- Mark before a value. -/
  | value
  /-- Name given to the next node. -/
  | anchor (name : String)
  /-- The node that was given a name. -/
  | alias (name : String)
  /-- Tag of the next node, as a handle and what follows it. -/
  | tag (handle suffix : String)
  /-- A scalar. -/
  | scalar (form : ScalarForm) (text : String)
  /-- End of the text. -/
  | streamEnd
  /-- A place where the text has no structure; nothing comes after it. -/
  | broken
  deriving DecidableEq, Repr

end MeshAudit.Yaml

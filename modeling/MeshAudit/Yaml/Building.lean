import MeshAudit.Yaml.Node

/-!
# Documents from tokens

Nodes are built from tokens by the grammar of the language. An anchor names a node from its start
on, so that it can be referred to inside of itself. The handle of a tag stands for what a directive
of the document says, or for one of two defaults.
-/

namespace MeshAudit.Yaml

/-- What building a document has to remember. -/
structure Building where
  /-- The tokens to come. -/
  tokens : List Token
  /-- What the handles of tags stand for. -/
  handles : List (String × String) := []
  /-- Number of the node that each anchor names. -/
  names : List (String × Nat) := []
  /-- Where the nodes with a number start, the latest first. -/
  numbered : List (Nat × Nat) := []
  /-- The anchored nodes that are complete, by where they start. -/
  anchored : List (Nat × Node) := []

/-- A step of building a document, which may fail. -/
abbrev Build := StateT Building Option

namespace Build

/-- The next token. -/
def peek : Build Token := do return (← get).tokens.head?.getD .broken

/-- Go over the next token. -/
def skip : Build Unit := modify fun b => { b with tokens := b.tokens.tail }

/-- Whether the next token is one of some. -/
def nextIn (tokens : List Token) : Build Bool := do return tokens.contains (← peek)

/-- The number of the node that an anchor names. -/
def numberOf (name : String) : Build Nat := do
  match (← get).names.lookup name with
  | some number => return number
  | none => failure

/-- Give a name to the node that starts here, and say where it starts. Its number counts the names
that are in use. -/
def begin (name : String) : Build Nat := do
  let b ← get
  let number := b.names.length
  let start := b.numbered.length
  let others := b.names.filter fun named => named.1 ≠ name
  set { b with names := (name, number) :: others, numbered := (number, start) :: b.numbered }
  return start

/-- Complete an anchored node. -/
def complete (start : Option Nat) (node : Node) : Build Unit :=
  match start with
  | some start => modify fun b => { b with anchored := (start, node) :: b.anchored }
  | none => pure ()

/-- The tag for a handle and what follows it. -/
def expand (handle suffix : String) : Build String := do
  if handle = "" then return suffix
  else
    match (← get).handles.lookup handle with
    | some expansion => return expansion ++ suffix
    | none => failure

/-- Take an anchor if one is next. -/
def takeAnchor : Build (Option String) := do
  match ← peek with
  | .anchor name => skip; return some name
  | _ => return none

/-- Take a tag if one is next. -/
def takeTag : Build (Option (String × String)) := do
  match ← peek with
  | .tag handle suffix => skip; return some (handle, suffix)
  | _ => return none

/-- Take an anchor and a tag, in either order. -/
def takeLabels : Build (Option String × Option String) := do
  let early ← takeAnchor
  let tag ← takeTag
  let late ← if early.isNone && tag.isSome then takeAnchor else pure none
  let tag ← match tag with
    | some (handle, suffix) => some <$> expand handle suffix
    | none => pure none
  return (early.or late, tag)

mutual

/-- A node. Outside of brackets it may be a block, and as a value a sequence without indentation. -/
def node (inBlock asValue : Bool) : Nat → Build Node
  | 0 => failure
  | depth + 1 => do
    match ← peek with
    | .alias name =>
      skip
      return .reference (← numberOf name)
    | _ =>
      let (anchor, tag) ← takeLabels
      let start ← anchor.mapM begin
      let built ← content inBlock asValue (anchor.isSome || tag.isSome) tag depth
      complete start built
      return built

/-- What follows the labels of a node. Nothing needs to follow if there are labels. -/
def content (inBlock asValue labelled : Bool) (tag : Option String) : Nat → Build Node
  | 0 => failure
  | depth + 1 => do
    match ← peek, inBlock, asValue with
    | .entry, _, true => .sequence tag <$> plainItems depth
    | .scalar form text, _, _ =>
      skip
      return .scalar tag form text
    | .flowSequenceStart, _, _ => skip; .sequence tag <$> flowItems true depth
    | .flowMappingStart, _, _ => skip; .mapping tag <$> flowFields true depth
    | .sequenceStart, true, _ => skip; .sequence tag <$> blockItems depth
    | .mappingStart, true, _ => skip; .mapping tag <$> blockFields depth
    | _, _, _ => if labelled then return .scalar tag .plain "" else failure

/-- A node, or nothing before the given tokens. -/
def nodeUnless (ends : List Token) (inBlock asValue : Bool) : Nat → Build Node
  | 0 => failure
  | depth + 1 => do
    if ← nextIn ends then return .empty else node inBlock asValue depth

/-- The items of a sequence with indentation. -/
def blockItems : Nat → Build (List Node)
  | 0 => failure
  | depth + 1 => do
    match ← peek with
    | .entry =>
      skip
      let item ← nodeUnless [.entry, .blockEnd] true false depth
      return item :: (← blockItems depth)
    | .blockEnd => skip; return []
    | _ => failure

/-- The items of a sequence without indentation of its own. -/
def plainItems : Nat → Build (List Node)
  | 0 => failure
  | depth + 1 => do
    match ← peek with
    | .entry =>
      skip
      let item ← nodeUnless [.entry, .key, .value, .blockEnd] true false depth
      return item :: (← plainItems depth)
    | _ => return []

/-- The fields of a mapping with indentation. -/
def blockFields : Nat → Build (List (Node × Node))
  | 0 => failure
  | depth + 1 => do
    let ends := [.key, .value, .blockEnd]
    match ← peek with
    | .key =>
      skip
      let key ← nodeUnless ends true true depth
      let value ←
        if ← nextIn [.value] then
          skip
          nodeUnless ends true true depth
        else pure .empty
      return (key, value) :: (← blockFields depth)
    | .blockEnd => skip; return []
    | _ => failure

/-- The items of a sequence in brackets. Each after the first follows a separator. -/
def flowItems (first : Bool) : Nat → Build (List Node)
  | 0 => failure
  | depth + 1 => do
    if ← nextIn [.flowSequenceEnd] then
      skip
      return []
    else
      if !first then
        if ← nextIn [.flowEntry] then skip else failure
      match ← peek with
      | .flowSequenceEnd => skip; return []
      | .key =>
        skip
        let item ← pair depth
        return item :: (← flowItems false depth)
      | _ =>
        let item ← node false false depth
        return item :: (← flowItems false depth)

/-- A mapping of one field as an item of a sequence in brackets, after the mark of its key. Where
the key is left out, so is the token after it. -/
def pair : Nat → Build Node
  | 0 => failure
  | depth + 1 => do
    let ends := [.flowEntry, .flowSequenceEnd]
    let key ←
      if ← nextIn (.value :: ends) then
        skip
        pure .empty
      else node false false depth
    let value ←
      if ← nextIn [.value] then
        skip
        nodeUnless ends false false depth
      else pure .empty
    return .mapping none [(key, value)]

/-- The fields of a mapping in braces. Each after the first follows a separator. -/
def flowFields (first : Bool) : Nat → Build (List (Node × Node))
  | 0 => failure
  | depth + 1 => do
    let ends := [.flowEntry, .flowMappingEnd]
    if ← nextIn [.flowMappingEnd] then
      skip
      return []
    else
      if !first then
        if ← nextIn [.flowEntry] then skip else failure
      match ← peek with
      | .flowMappingEnd => skip; return []
      | .key =>
        skip
        let key ← nodeUnless (.value :: ends) false false depth
        let value ←
          if ← nextIn [.value] then
            skip
            nodeUnless ends false false depth
          else pure .empty
        return (key, value) :: (← flowFields false depth)
      | _ =>
        let key ← node false false depth
        return (key, .empty) :: (← flowFields false depth)

end

/-- Take the directives before a document. Only some versions of the language are known, and none is
given twice; nor is a handle. -/
def takeDirectives (versioned : Bool) : Nat → Build Unit
  | 0 => failure
  | count + 1 => do
    match ← peek with
    | .version major minor =>
      skip
      if versioned || major != 1 || (minor != 1 && minor != 2) then failure
      else takeDirectives true count
    | .handle name expansion =>
      skip
      if ((← get).handles.lookup name).isSome then failure
      else
        modify fun b => { b with handles := (name, expansion) :: b.handles }
        takeDirectives versioned count
    | _ => pure ()

/-- The handles of tags that need no directive. -/
def defaultHandles : List (String × String) := [("!", "!"), ("!!", "tag:yaml.org,2002:")]

/-- The tokens that no document starts with. -/
def isOutside : Token → Bool
  | .version _ _ => true
  | .handle _ _ => true
  | .documentStart => true
  | .documentEnd => true
  | .streamEnd => true
  | _ => false

/-- A document. The mark before it may be left out only if it is the first and has no directives. -/
def document (first : Bool) : Build Document := do
  let size := (← get).tokens.length
  let depth := 4 * size + 4
  let bare := first && !isOutside (← peek) || first && (← nextIn [.documentEnd])
  if !bare then takeDirectives false (size + 1)
  modify fun b => { b with handles := b.handles ++ defaultHandles }
  if !bare then
    if ← nextIn [.documentStart] then skip else failure
  let root ← if !bare && isOutside (← peek) then pure .empty else node true false depth
  match ← peek with
  | .broken => failure
  | .documentEnd => skip
  | _ => pure ()
  let b ← get
  return { root := root, numbered := b.numbered, anchored := b.anchored }

end Build

/-- The documents of tokens, as many as the first argument at most. The sequence ends with the first
document that cannot be built. -/
def documentsWithin (first : Bool) : Nat → List Token → List (Option Document)
  | 0, _ => []
  | count + 1, tokens =>
    let tokens := if first then tokens else tokens.dropWhile (· = .documentEnd)
    if tokens.head? = some .streamEnd then []
    else
      match (Build.document first).run { tokens := tokens } with
      | none => [none]
      | some (document, rest) => some document :: documentsWithin false count rest.tokens

/-- The documents of tokens. A document takes at least one token. -/
def documentsOf (tokens : List Token) : List (Option Document) :=
  documentsWithin true (tokens.length + 1) tokens

end MeshAudit.Yaml

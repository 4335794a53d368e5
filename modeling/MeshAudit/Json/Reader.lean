import MeshAudit.Json.Token

/-!
# Reading JSON

The tokens of a text are taken in by a machine that keeps the containers still open, innermost
first. One container may hold another up to a fixed depth.
-/

namespace MeshAudit.Json

/-- A container still open. -/
inductive Frame where
  /-- A list with its items so far, last first. -/
  | array (items : List Value)
  /-- An object with its fields so far, last first, and the name whose value comes next. -/
  | object (fields : List (String × Value)) (name : String)

/-- What the machine waits for, given the containers still open. -/
inductive State where
  /-- A value. -/
  | value (frames : List Frame)
  /-- The first item of a list or its end. -/
  | firstItem (frames : List Frame)
  /-- The first name of an object or its end. -/
  | firstName (frames : List Frame)
  /-- A name, in an object with the given fields. -/
  | name (fields : List (String × Value)) (frames : List Frame)
  /-- The separator between a name and its value. -/
  | colon (frames : List Frame)
  /-- A separator of items or the end of the innermost container. -/
  | next (frames : List Frame)
  /-- Nothing but the end of the text. -/
  | done (value : Value)

/-- Greatest number of containers around a value. -/
def maxDepth : Nat := 127

/-- Hand a finished value to the innermost container. -/
def place (v : Value) : List Frame → State
  | [] => .done v
  | .array items :: frames => .next (.array (v :: items) :: frames)
  | .object fields name :: frames => .next (.object ((name, v) :: fields) name :: frames)

/-- Take in a token where a value is due. -/
def begin? (frames : List Frame) : Token → Option State
  | .openArray =>
    if frames.length < maxDepth then some (.firstItem (.array [] :: frames)) else none
  | .openObject => if frames.length < maxDepth then some (.firstName frames) else none
  | .text s => some (place (.string s) frames)
  | .scalar v => some (place v frames)
  | _ => none

/-- Take in one token. -/
def step? (state : State) (token : Token) : Option State :=
  match state, token with
  | .value frames, token => begin? frames token
  | .firstItem (.array _ :: frames), .closeArray => some (place (.array []) frames)
  | .firstItem frames, token => begin? frames token
  | .firstName frames, .closeObject => some (place (.object []) frames)
  | .firstName frames, .text name => some (.colon (.object [] name :: frames))
  | .name fields frames, .text name => some (.colon (.object fields name :: frames))
  | .colon frames, .colon => some (.value frames)
  | .next (.array items :: frames), .comma => some (.value (.array items :: frames))
  | .next (.array items :: frames), .closeArray => some (place (.array items.reverse) frames)
  | .next (.object fields _ :: frames), .comma => some (.name fields frames)
  | .next (.object fields _ :: frames), .closeObject =>
    some (place (Value.ofFields fields.reverse) frames)
  | _, _ => none

/-- The value that a text holds; blanks may surround it. -/
def read? (text : String) : Option Value := do
  let tokens ← tokens? text.toList
  match ← tokens.foldlM step? (.value []) with
  | .done v => some v
  | _ => none

end MeshAudit.Json

/-!
# mTLS modes

A mode is the word by which a policy object asks for mutual TLS. An empty word asks for nothing,
and a word outside the vocabulary is kept as it is.
-/

namespace MeshAudit

/-- An mTLS mode of a policy object. -/
inductive MtlsMode where
  /-- No mode. -/
  | unset
  /-- No mTLS. -/
  | disable
  /-- Both plain traffic and mTLS. -/
  | permissive
  /-- Nothing but mTLS. -/
  | strict
  /-- mTLS with certificates of one's own. -/
  | mutualTls
  /-- mTLS with certificates of the mesh. -/
  | istioMutual
  /-- Any other word. -/
  | other (word : String)
  deriving DecidableEq, Repr

namespace MtlsMode

/-- The mode of a word. -/
def ofWord (word : String) : MtlsMode :=
  if word = "" then unset
  else if word = "DISABLE" then disable
  else if word = "PERMISSIVE" then permissive
  else if word = "STRICT" then strict
  else if word = "MUTUAL" then mutualTls
  else if word = "ISTIO_MUTUAL" then istioMutual
  else other word

/-- The word of a mode. -/
def word : MtlsMode → String
  | unset => ""
  | disable => "DISABLE"
  | permissive => "PERMISSIVE"
  | strict => "STRICT"
  | mutualTls => "MUTUAL"
  | istioMutual => "ISTIO_MUTUAL"
  | other word => word

/-- Whether there is a mode. -/
def isSet (mode : MtlsMode) : Bool := mode ≠ unset

/-- Whether the mode requires mutual TLS. -/
def requiresMutual : MtlsMode → Bool
  | mutualTls => true
  | istioMutual => true
  | _ => false

/-- This mode if it is set, else another one. -/
def orElse (mode fallback : MtlsMode) : MtlsMode := if mode.isSet then mode else fallback

/-- The first mode of a list that is set. -/
def firstSet (modes : List MtlsMode) : MtlsMode := (modes.find? isSet).getD unset

/-- A mode read from a word is written as the same word. -/
@[simp] theorem word_ofWord (w : String) : (ofWord w).word = w := by
  unfold ofWord
  repeat' split
  all_goals simp_all [word]

end MtlsMode

end MeshAudit

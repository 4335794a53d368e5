import Mathlib.Data.Prod.Basic
import MeshAudit.Gateway.Binding

/-!
# The hosts that a gateway exposes

A gateway exposes the texts in the host lists of those servers that are objects, and it has one
binding for each. This module says which binding belongs to which text, so that nothing else has to
go through the two nested lists of a gateway again.
-/

namespace MeshAudit

/-! ### Positions in lists -/

section

variable {α : Type} {r : α → α → Prop}

/-- Items come with growing positions. -/
theorem pairwise_snd_zipIdx (items : List α) :
    items.zipIdx.Pairwise fun a b => a.2 < b.2 := by
  have hpositions : (items.zipIdx.map Prod.snd).Pairwise (· < ·) := by
    rw [List.zipIdx_map_snd]
    exact List.pairwise_lt_range'
  exact List.pairwise_map.1 hpositions

/-- Items stay in order beside their positions. -/
theorem pairwise_fst_zipIdx {items : List α} (h : items.Pairwise r) :
    items.zipIdx.Pairwise fun a b => r a.1 b.1 := by
  have hitems : (items.zipIdx.map Prod.fst).Pairwise r := by rwa [List.zipIdx_map_fst]
  exact List.pairwise_map.1 hitems

end

/-! ### Texts of a list -/

/-- Whether an item of a list is a text. -/
def isText (item : Value) : Bool := item.asString?.isSome

/-- A text is read from a text node only. -/
theorem eq_string_of_asString? {item : Value} {text : String} (h : item.asString? = some text) :
    item = .string text := by
  cases item <;> simp_all [Value.asString?]

/-- The text at a place among the texts of a list stands in the list after as many other texts. -/
theorem exists_of_getElem?_texts {items : List Value} {start place position : Nat} {host : String}
    (h : ((items.zipIdx start).filterMap fun item =>
      item.1.asString?.map fun s => (item.2, s))[place]? = some (position, host)) :
    ∃ k, position = start + k ∧ items[k]? = some (.string host) ∧
      (items.take k).countP isText = place := by
  induction items generalizing start place with
  | nil => simp at h
  | cons item rest ih =>
    rw [List.zipIdx_cons, List.filterMap_cons] at h
    cases htext : item.asString? with
    | none =>
      have hno : isText item = false := by rw [isText, htext]; rfl
      simp only [htext, Option.map_none] at h
      obtain ⟨k, rfl, hitem, hcount⟩ := ih h
      refine ⟨k + 1, by omega, by simpa using hitem, ?_⟩
      rw [List.take_succ_cons, List.countP_cons_of_neg (by simp [hno]), hcount]
    | some text =>
      have hyes : isText item = true := by rw [isText, htext]; rfl
      simp only [htext, Option.map_some] at h
      cases place with
      | zero =>
        obtain ⟨rfl, rfl⟩ : start = position ∧ text = host := by simpa using h
        exact ⟨0, rfl, by simp [eq_string_of_asString? htext], rfl⟩
      | succ place =>
        rw [List.getElem?_cons_succ] at h
        obtain ⟨k, rfl, hitem, hcount⟩ := ih h
        refine ⟨k + 1, by omega, by simpa using hitem, ?_⟩
        rw [List.take_succ_cons, List.countP_cons_of_pos hyes, hcount]

/-- A text of a list has as its place the number of texts before it. -/
theorem getElem?_texts_of_getElem? {items : List Value} {k : Nat} {host : String}
    (start : Nat) (h : items[k]? = some (.string host)) :
    ((items.zipIdx start).filterMap fun item =>
      item.1.asString?.map fun s => (item.2, s))[(items.take k).countP isText]? =
        some (start + k, host) := by
  induction items generalizing start k with
  | nil => simp at h
  | cons item rest ih =>
    rw [List.zipIdx_cons, List.filterMap_cons]
    cases k with
    | zero =>
      obtain rfl : item = .string host := by simpa using h
      rfl
    | succ k =>
      have hrest := ih (start + 1) (by simpa using h)
      rw [List.take_succ_cons, show start + (k + 1) = start + 1 + k by omega, ← hrest]
      cases htext : item.asString? with
      | none =>
        have hno : isText item = false := by rw [isText, htext]; rfl
        rw [List.countP_cons_of_neg (by simp [hno])]
        rfl
      | some text =>
        have hyes : isText item = true := by rw [isText, htext]; rfl
        rw [List.countP_cons_of_pos hyes]
        exact List.getElem?_cons_succ

/-- The texts of a list are in the order of their positions. -/
theorem pairwise_textItems (v : Option Value) : (textItems v).Pairwise fun a b => a.1 < b.1 := by
  unfold textItems
  split
  · next items =>
    refine (pairwise_snd_zipIdx items).filterMap _ fun a b hlt text ha other hb => ?_
    obtain ⟨_, -, rfl⟩ := Option.map_eq_some_iff.1 ha
    obtain ⟨_, -, rfl⟩ := Option.map_eq_some_iff.1 hb
    exact hlt
  · exact List.Pairwise.nil

/-- The texts of a host list with their positions and places. -/
theorem mem_zipIdx_textItems {v : Option Value} {k place : Nat} {host : String} :
    ((k, host), place) ∈ (textItems v).zipIdx ↔
      ∃ items, v = some (.array items) ∧ items[k]? = some (.string host) ∧
        (items.take k).countP isText = place := by
  rw [List.mem_zipIdx_iff_getElem?]
  constructor
  · intro h
    unfold textItems at h
    split at h
    · next items =>
      obtain ⟨j, hj, hitem, hcount⟩ := exists_of_getElem?_texts h
      obtain rfl : k = j := by simpa using hj
      exact ⟨items, rfl, hitem, hcount⟩
    · simp at h
  · rintro ⟨items, rfl, hitem, rfl⟩
    have hplace := getElem?_texts_of_getElem? 0 hitem
    rwa [Nat.zero_add] at hplace

/-! ### Exposed hosts -/

/-- A gateway exposes a text in the host list of one of its servers, which is an object. The binding
has the port of the server, the text in lower case, the index of the server and the number of texts
before it in the list. -/
inductive ExposesAt (gateway : MeshObject) : Nat × Nat → HostBinding → Prop where
  | intro {servers items : List Value} {fields : List (String × Value)} {server item : Nat}
      {host : String} (hservers : gateway.body? ["servers"] = some (.array servers))
      (hserver : servers[server]? = some (.object fields))
      (hitems : fields.lookup "hosts" = some (.array items))
      (hitem : items[item]? = some (.string host)) :
      ExposesAt gateway (server, item)
        ⟨.ofObject gateway, portNumber (.object fields), Text.lowercase host, server,
          (items.take item).countP isText⟩

/-- The bindings of the server at an index, each with the position of its text. -/
def serverExposures (owner : ObjectKey) (server : Value × Nat) :
    List ((Nat × Nat) × HostBinding) :=
  match server.1 with
  | .object fields =>
    (textItems (fields.lookup "hosts")).zipIdx.map fun host =>
      ((server.2, host.1.1), .ofName owner (portNumber server.1) host.1.2 server.2 host.2)
  | _ => []

/-- The bindings of a gateway, each with the position of its text. -/
def exposures (gateway : MeshObject) : List ((Nat × Nat) × HostBinding) :=
  match gateway.body? ["servers"] with
  | some (.array servers) => servers.zipIdx.flatMap (serverExposures (.ofObject gateway))
  | _ => []

/-- Without the positions they are the bindings. -/
theorem map_snd_exposures (gateway : MeshObject) :
    (exposures gateway).map Prod.snd = hostBindings gateway := by
  have hserver : ∀ server, (serverExposures (.ofObject gateway) server).map Prod.snd =
      serverBindings (.ofObject gateway) server := by
    rintro ⟨server, i⟩
    cases server with
    | object fields => exact List.map_map
    | _ => rfl
  unfold exposures hostBindings
  cases gateway.body? ["servers"] with
  | none => rfl
  | some v =>
    cases v with
    | array servers =>
      rw [List.map_flatMap]
      simp only [hserver]
    | _ => rfl

/-- The bindings are those of the exposed texts. -/
theorem mem_exposures {gateway : MeshObject} {position : Nat × Nat} {binding : HostBinding} :
    (position, binding) ∈ exposures gateway ↔ ExposesAt gateway position binding := by
  constructor
  · intro h
    unfold exposures at h
    split at h
    · next servers hservers =>
      obtain ⟨⟨server, i⟩, hserver, h⟩ := List.mem_flatMap.1 h
      rw [List.mem_zipIdx_iff_getElem?] at hserver
      cases server with
      | object fields =>
        obtain ⟨⟨⟨k, host⟩, place⟩, hplace, heq⟩ := List.mem_map.1 h
        obtain ⟨items, hitems, hitem, rfl⟩ := mem_zipIdx_textItems.1 hplace
        cases heq
        exact .intro hservers hserver hitems hitem
      | _ => exact absurd h List.not_mem_nil
    · exact absurd h List.not_mem_nil
  · intro h
    cases h with
    | intro hservers hserver hitems hitem =>
      have hindexed := List.mk_mem_zipIdx_iff_getElem?.2 hserver
      have hplace := mem_zipIdx_textItems.2 ⟨_, hitems, hitem, rfl⟩
      rw [exposures, hservers]
      refine List.mem_flatMap.2 ⟨_, hindexed, ?_⟩
      exact List.mem_map.2 ⟨_, hplace, rfl⟩

/-- A gateway has the bindings of the texts that it exposes. -/
theorem mem_hostBindings {gateway : MeshObject} {binding : HostBinding} :
    binding ∈ hostBindings gateway ↔ ∃ position, ExposesAt gateway position binding := by
  rw [← map_snd_exposures, List.mem_map]
  constructor
  · rintro ⟨⟨position, _⟩, h, rfl⟩
    exact ⟨position, mem_exposures.1 h⟩
  · rintro ⟨position, h⟩
    exact ⟨(position, binding), mem_exposures.2 h, rfl⟩

/-- The bindings are in the order of the positions of their texts. -/
theorem pairwise_exposures (gateway : MeshObject) :
    (exposures gateway).Pairwise fun a b => Prod.Lex (· < ·) (· < ·) a.1 b.1 := by
  have hserver : ∀ server, ∀ a ∈ serverExposures (.ofObject gateway) server, a.1.1 = server.2 := by
    intro server a ha
    unfold serverExposures at ha
    split at ha
    · obtain ⟨_, -, rfl⟩ := List.mem_map.1 ha
      rfl
    · exact absurd ha List.not_mem_nil
  unfold exposures
  split
  · next servers _ =>
    refine List.pairwise_flatMap.2 ⟨fun server _ => ?_, ?_⟩
    · unfold serverExposures
      split
      · rw [List.pairwise_map]
        exact (pairwise_fst_zipIdx (pairwise_textItems _)).imp fun hlt => .right _ hlt
      · exact List.Pairwise.nil
    · refine (pairwise_snd_zipIdx servers).imp fun {s t} hlt a ha b hb => ?_
      rw [← hserver s a ha, ← hserver t b hb] at hlt
      exact Prod.lex_def.2 (.inl hlt)
  · exact List.Pairwise.nil

end MeshAudit

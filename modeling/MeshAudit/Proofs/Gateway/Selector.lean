import MeshAudit.Proofs.Gateway.Overlap

/-!
# Gateways with different selectors

Gateways are compared by one text for each selector, and nothing marks a comma of the text as one
between two labels or one inside a label. So the text settles what stands between its commas and no
more: gateways with different labels can be served together when commas in their labels make up for
the difference. Labels without commas, and names without equals signs, are told apart.
-/

namespace MeshAudit

/-! ### What the text of a selector settles -/

/-- The labels of a selector; one that is absent or malformed has none. -/
def selectorLabels (selector : Option Value) : List (String × String) :=
  (selector.bind labels?).getD []

/-- What stands between the commas of the labels of a selector, label by label. -/
def selectorPieces (selector : Option Value) : List (List Char) :=
  (selectorLabels selector).flatMap fun label => (labelText label).toList.splitOn ','

/-- The text of a selector is that of its labels. -/
theorem canonicalSelector_eq (selector : Option Value) :
    canonicalSelector selector =
      String.intercalate "," ((selectorLabels selector).map labelText) := by
  unfold canonicalSelector selectorLabels
  cases selector.bind labels? <;> rfl

/-- A label is never written as the empty text. -/
theorem labelText_ne_empty (label : String × String) : labelText label ≠ "" := by
  intro h
  have hchars : (labelText label).toList = [] := by rw [h]; rfl
  simp [labelText] at hchars

/-- Texts joined by a separator and split at it again are the pieces of one text after another. -/
theorem splitOn_intercalate_eq_flatMap (sep : Char) {texts : List (List Char)} (h : texts ≠ []) :
    ([sep].intercalate texts).splitOn sep = texts.flatMap fun text => text.splitOn sep := by
  induction texts with
  | nil => exact absurd rfl h
  | cons text rest ih =>
    cases rest with
    | nil => simp
    | cons next rest =>
      have hrest := ih (List.cons_ne_nil next rest)
      have hjoin : [sep].intercalate (text :: next :: rest) =
          text ++ sep :: [sep].intercalate (next :: rest) := by
        simp [List.intercalate_cons_cons]
      rw [List.flatMap_cons, hjoin, List.splitOn_append_cons_self, hrest]

/-- A selector has the empty text exactly when it has no labels. -/
theorem canonicalSelector_eq_empty_iff {selector : Option Value} :
    canonicalSelector selector = "" ↔ selectorLabels selector = [] := by
  rw [canonicalSelector_eq]
  cases selectorLabels selector with
  | nil => simp
  | cons label rest =>
    have hlabel := labelText_ne_empty label
    cases rest <;> simp [hlabel]

/-- The pieces of a selector are found by splitting its text, which is empty only for a selector
without labels. -/
theorem selectorPieces_eq_splitOn (selector : Option Value) :
    selectorPieces selector =
      if canonicalSelector selector = "" then []
      else (canonicalSelector selector).toList.splitOn ',' := by
  by_cases h : selectorLabels selector = []
  · rw [if_pos (canonicalSelector_eq_empty_iff.2 h), selectorPieces, h, List.flatMap_nil]
  · have htext : canonicalSelector selector ≠ "" := fun hempty =>
      h (canonicalSelector_eq_empty_iff.1 hempty)
    have htexts : ((selectorLabels selector).map labelText).map String.toList ≠ [] := by
      simpa using h
    have hcomma : ",".toList = [','] := rfl
    rw [if_neg htext, canonicalSelector_eq, String.toList_intercalate, hcomma,
      splitOn_intercalate_eq_flatMap ',' htexts, List.flatMap_map, List.flatMap_map]
    rfl

/-- The text of a selector is found by joining its pieces. -/
theorem toList_canonicalSelector (selector : Option Value) :
    (canonicalSelector selector).toList = [','].intercalate (selectorPieces selector) := by
  rw [selectorPieces_eq_splitOn]
  split
  · next hempty =>
    rw [hempty]
    rfl
  · exact (List.intercalate_splitOn ',').symm

/-- Two selectors have one text exactly when they have the same pieces. -/
theorem canonicalSelector_eq_iff_pieces {u v : Option Value} :
    canonicalSelector u = canonicalSelector v ↔ selectorPieces u = selectorPieces v := by
  constructor
  · intro h
    rw [selectorPieces_eq_splitOn, selectorPieces_eq_splitOn, h]
  · intro h
    refine String.toList_inj.1 ?_
    rw [toList_canonicalSelector, toList_canonicalSelector, h]

/-! ### Labels that are told apart -/

/-- A label whose text reads one way only: no comma in it, and no equals sign in its name. -/
structure PlainLabel (label : String × String) : Prop where
  /-- The name has no equals sign. -/
  equals : '=' ∉ label.1.toList
  /-- The label has no comma. -/
  comma : ',' ∉ (labelText label).toList

/-- Texts cut at the first occurrence of a character have the same parts when they are equal. -/
theorem append_cons_inj_of_not_mem {sep : Char} {front frontOther back backOther : List Char}
    (h : sep ∉ front) (hother : sep ∉ frontOther)
    (heq : front ++ sep :: back = frontOther ++ sep :: backOther) :
    front = frontOther ∧ back = backOther := by
  induction front generalizing frontOther with
  | nil =>
    cases frontOther with
    | nil => simpa using heq
    | cons c rest =>
      obtain ⟨rfl, -⟩ := List.cons_eq_cons.1 heq
      exact absurd List.mem_cons_self hother
  | cons c rest ih =>
    cases frontOther with
    | nil =>
      obtain ⟨rfl, -⟩ := List.cons_eq_cons.1 heq
      exact absurd List.mem_cons_self h
    | cons d restOther =>
      obtain ⟨rfl, htail⟩ := List.cons_eq_cons.1 heq
      have hrest : sep ∉ rest := fun hmem => h (List.mem_cons_of_mem _ hmem)
      have hrestOther : sep ∉ restOther := fun hmem => hother (List.mem_cons_of_mem _ hmem)
      obtain ⟨rfl, hback⟩ := ih hrest hrestOther htail
      exact ⟨rfl, hback⟩

/-- Two plain labels with one text are one label. -/
theorem PlainLabel.eq_of_labelText {label other : String × String} (h : PlainLabel label)
    (hother : PlainLabel other) (heq : labelText label = labelText other) : label = other := by
  have hchars : label.1.toList ++ '=' :: label.2.toList =
      other.1.toList ++ '=' :: other.2.toList := by
    have htext := congrArg String.toList heq
    simpa [labelText] using htext
  obtain ⟨hname, hvalue⟩ := append_cons_inj_of_not_mem h.equals hother.equals hchars
  exact Prod.ext (String.toList_inj.1 hname) (String.toList_inj.1 hvalue)

/-- A plain label is one piece. -/
theorem flatMap_splitOn_of_plain {labels : List (String × String)}
    (plain : ∀ label ∈ labels, PlainLabel label) :
    (labels.flatMap fun label => (labelText label).toList.splitOn ',') =
      labels.map fun label => (labelText label).toList := by
  rw [List.map_eq_flatMap]
  refine List.flatMap_congr fun label hlabel => ?_
  exact List.splitOn_eq_singleton (plain label hlabel).comma

/-- Lists of plain labels with the same texts are equal. -/
theorem eq_of_map_labelText {labels other : List (String × String)}
    (plain : ∀ label ∈ labels, PlainLabel label) (plainOther : ∀ label ∈ other, PlainLabel label)
    (h : (labels.map fun label => (labelText label).toList) =
      other.map fun label => (labelText label).toList) : labels = other := by
  induction labels generalizing other with
  | nil =>
    have hnil : other = [] := by simpa using h.symm
    exact hnil.symm
  | cons label rest ih =>
    cases other with
    | nil => simp at h
    | cons labelOther restOther =>
      obtain ⟨hhead, htail⟩ := List.cons_eq_cons.1 h
      obtain ⟨hlabel, hrest⟩ := List.forall_mem_cons.1 plain
      obtain ⟨hlabelOther, hrestOther⟩ := List.forall_mem_cons.1 plainOther
      rw [hlabel.eq_of_labelText hlabelOther (String.toList_inj.1 hhead),
        ih hrest hrestOther htail]

/-- Selectors with plain labels have one text exactly when they have the same labels. -/
theorem canonicalSelector_eq_iff_labels {u v : Option Value}
    (plain : ∀ label ∈ selectorLabels u, PlainLabel label)
    (plainOther : ∀ label ∈ selectorLabels v, PlainLabel label) :
    canonicalSelector u = canonicalSelector v ↔ selectorLabels u = selectorLabels v := by
  rw [canonicalSelector_eq_iff_pieces, selectorPieces, selectorPieces,
    flatMap_splitOn_of_plain plain, flatMap_splitOn_of_plain plainOther]
  constructor
  · exact eq_of_map_labelText plain plainOther
  · intro h
    rw [h]

/-! ### Which gateways meet -/

/-- Bindings of two gateways are in conflict when they overlap and the selectors have the same
pieces. -/
theorem conflicts_iff_pieces {gateway other : MeshObject} {b c : ScopedBinding}
    (hb : b ∈ scopedBindings gateway) (hc : c ∈ scopedBindings other) :
    b.conflicts c = true ↔
      selectorPieces (gateway.body? ["selector"]) = selectorPieces (other.body? ["selector"]) ∧
        b.binding.overlaps c.binding = true := by
  rw [ScopedBinding.conflicts, Bool.and_eq_true, decide_eq_true_eq, (mem_scopedBindings.1 hb).2,
    (mem_scopedBindings.1 hc).2, canonicalSelector_eq_iff_pieces]

/-- A reference goes from one gateway to another one with the same pieces. -/
theorem exists_same_pieces_of_mem_references {gateways : List MeshObject} {key x : ObjectKey}
    (h : x ∈ (gatewayGraph gateways).references key) :
    ∃ gateway ∈ gateways, ∃ other ∈ gateways, ObjectKey.ofObject gateway = key ∧
      ObjectKey.ofObject other = x ∧
        selectorPieces (gateway.body? ["selector"]) =
          selectorPieces (other.body? ["selector"]) := by
  obtain ⟨-, ⟨b, c⟩, hp, hkey, hx⟩ := mem_references_gatewayGraph.1 h
  obtain ⟨hb, hc, -, hconf⟩ := mem_conflictPairs.1 hp
  obtain ⟨gateway, hgateway, hb⟩ := List.mem_flatMap.1 (List.fst_mem_of_mem_zipIdx hb)
  obtain ⟨other, hother, hc⟩ := List.mem_flatMap.1 (List.fst_mem_of_mem_zipIdx hc)
  have hkey : ObjectKey.ofObject gateway = key := (owner_of_mem_scopedBindings hb).symm.trans hkey
  have hx : ObjectKey.ofObject other = x := (owner_of_mem_scopedBindings hc).symm.trans hx
  exact ⟨gateway, hgateway, other, hother, hkey, hx, ((conflicts_iff_pieces hb hc).1 hconf).1⟩

/-- Two selectors are treated as one exactly when they have the same pieces between commas. So
gateways with plain labels that are not the same are never reported as in conflict with each other,
neither at their bindings nor by a reference. -/
theorem gateways_meet_iff_pieces (u v : Option Value) (gateways : List MeshObject) :
    (canonicalSelector u = canonicalSelector v ↔ selectorPieces u = selectorPieces v) ∧
    ((∀ label ∈ selectorLabels u, PlainLabel label) →
      (∀ label ∈ selectorLabels v, PlainLabel label) →
        (canonicalSelector u = canonicalSelector v ↔ selectorLabels u = selectorLabels v)) ∧
    (∀ gateway ∈ gateways, ∀ other ∈ gateways,
      ∀ b ∈ scopedBindings gateway, ∀ c ∈ scopedBindings other,
        b.conflicts c = true ↔
          selectorPieces (gateway.body? ["selector"]) = selectorPieces (other.body? ["selector"]) ∧
            b.binding.overlaps c.binding = true) ∧
    ((∀ gateway ∈ gateways, ∀ label ∈ selectorLabels (gateway.body? ["selector"]),
        PlainLabel label) →
      ∀ key x, x ∈ (gatewayGraph gateways).references key →
        ∃ gateway ∈ gateways, ∃ other ∈ gateways, ObjectKey.ofObject gateway = key ∧
          ObjectKey.ofObject other = x ∧
            selectorLabels (gateway.body? ["selector"]) =
              selectorLabels (other.body? ["selector"])) := by
  refine ⟨canonicalSelector_eq_iff_pieces,
    fun plain plainOther => canonicalSelector_eq_iff_labels plain plainOther,
    fun gateway _ other _ b hb c hc => conflicts_iff_pieces hb hc, ?_⟩
  intro plain key x h
  obtain ⟨gateway, hgateway, other, hother, hkey, hx, hpieces⟩ :=
    exists_same_pieces_of_mem_references h
  have htext := canonicalSelector_eq_iff_pieces.2 hpieces
  have hlabels :=
    (canonicalSelector_eq_iff_labels (plain gateway hgateway) (plain other hother)).1 htext
  exact ⟨gateway, hgateway, other, hother, hkey, hx, hlabels⟩

/-- A gateway with some labels in its selector and one host. -/
def labelledGateway (name : String) (labels : List (String × String)) : MeshObject :=
  { kind := .gateway, name, ns := "bookinfo"
    spec := .object [
      ("selector", .object (labels.map fun label => (label.1, .string label.2))),
      ("servers", .array [.object [("hosts", .array [.string "reviews.com"])]])] }

/-- Gateways for one host with the labels `app=edge` and `app=core` are told apart, and a third one
refers to the first because it has the same labels. -/
theorem gateways_meet_iff_pieces_plain :
    let edge := labelledGateway "edge" [("app", "edge")]
    let core := labelledGateway "core" [("app", "core")]
    let spare := labelledGateway "spare" [("app", "edge")]
    let gateways := [edge, core, spare]
    (∀ gateway ∈ gateways, ∀ label ∈ selectorLabels (gateway.body? ["selector"]),
      PlainLabel label) ∧
    ¬ canonicalSelector (edge.body? ["selector"]) = canonicalSelector (core.body? ["selector"]) ∧
    .ofObject edge ∈ (gatewayGraph gateways).references (.ofObject spare) ∧
    ∃ gateway ∈ gateways, ∃ other ∈ gateways,
      ObjectKey.ofObject gateway = .ofObject spare ∧ ObjectKey.ofObject other = .ofObject edge ∧
        selectorLabels (gateway.body? ["selector"]) =
          selectorLabels (other.body? ["selector"]) := by
  intro edge core spare gateways
  have hplain : ∀ gateway ∈ gateways, ∀ label ∈ selectorLabels (gateway.body? ["selector"]),
      PlainLabel label := by
    have hlabels : ∀ gateway ∈ gateways, ∀ label ∈ selectorLabels (gateway.body? ["selector"]),
        '=' ∉ label.1.toList ∧ ',' ∉ (labelText label).toList := by decide
    exact fun gateway hgateway label hlabel =>
      ⟨(hlabels gateway hgateway label hlabel).1, (hlabels gateway hgateway label hlabel).2⟩
  have hrefers : .ofObject edge ∈ (gatewayGraph gateways).references (.ofObject spare) := by decide
  have hedge := hplain edge (.head _)
  have hcore := hplain core (.tail _ (.head _))
  obtain ⟨-, htexts, -, hreferences⟩ :=
    gateways_meet_iff_pieces (edge.body? ["selector"]) (core.body? ["selector"]) gateways
  refine ⟨hplain, fun htext => ?_, hrefers, hreferences hplain _ _ hrefers⟩
  have hlabels := (htexts hedge hcore).1 htext
  exact absurd hlabels (by decide)

/-- A comma inside a label makes up for a second label: two gateways with different selectors are
reported as in conflict with each other. -/
theorem comma_in_label_joins_gateways :
    let two := labelledGateway "two" [("app", "edge"), ("tier", "front")]
    let one := labelledGateway "one" [("app", "edge,tier=front")]
    (two.body? ["selector"]).bind labels? = some [("app", "edge"), ("tier", "front")] ∧
    (one.body? ["selector"]).bind labels? = some [("app", "edge,tier=front")] ∧
    canonicalSelector (two.body? ["selector"]) = canonicalSelector (one.body? ["selector"]) ∧
    .ofObject two ∈ (gatewayGraph [two, one]).references (.ofObject one) ∧
    (gatewayGraph [two, one]).findingCount = 2 := by
  decide

end MeshAudit

import Mathlib.Data.List.Forall2
import MeshAudit.Proofs.Analysis.Contents
import MeshAudit.Snapshot.Manifest

/-!
# Loading a manifest

A manifest is read document by document. Every document either contributes at most one object or
makes the whole manifest fail, and the first that fails decides the failure, which names its
position among all documents. What a document contributes and how it fails is said here on the
fields of its record, apart from the functions that read them.
-/

namespace MeshAudit

open Yaml (Datum)

/-! ### Reading one item after another -/

section

variable {ε α β : Type} {f : α → Except ε β} {x : α} {xs : List α}

/-- The first item and all others are read on their own. -/
theorem mapM_cons_eq_ok_iff {results : List β} :
    (x :: xs).mapM f = .ok results ↔
      ∃ y ys, f x = .ok y ∧ xs.mapM f = .ok ys ∧ results = y :: ys := by
  rw [List.mapM_cons]
  cases f x with
  | error e => simp [bind, Except.bind]
  | ok y => cases xs.mapM f <;> simp [bind, Except.bind, pure, Except.pure, eq_comm]

/-- The other items decide the failure only if the first can be read. -/
theorem mapM_cons_eq_error_iff {e : ε} :
    (x :: xs).mapM f = .error e ↔
      f x = .error e ∨ (∃ y, f x = .ok y) ∧ xs.mapM f = .error e := by
  rw [List.mapM_cons]
  cases f x with
  | error e => simp [bind, Except.bind]
  | ok y => cases xs.mapM f <;> simp [bind, Except.bind, pure, Except.pure]

/-- Reading all items succeeds when each of them can be read, with their results in order. -/
theorem mapM_eq_ok_iff {ys : List β} :
    xs.mapM f = .ok ys ↔ List.Forall₂ (fun x y => f x = .ok y) xs ys := by
  induction xs generalizing ys with
  | nil => simp [pure, Except.pure, eq_comm]
  | cons x rest ih => simp only [mapM_cons_eq_ok_iff, ih, List.forall₂_cons_left_iff]

/-- Reading all items fails as the first item does that cannot be read. -/
theorem mapM_eq_error_iff {e : ε} :
    xs.mapM f = .error e ↔
      ∃ before x after, xs = before ++ x :: after ∧ (∀ earlier ∈ before, ∃ y, f earlier = .ok y) ∧
        f x = .error e := by
  induction xs with
  | nil => simp [pure, Except.pure]
  | cons x rest ih =>
    rw [mapM_cons_eq_error_iff, ih]
    constructor
    · rintro (hx | ⟨hok, before, y, after, rfl, hbefore, hy⟩)
      · exact ⟨[], x, rest, rfl, by simp, hx⟩
      · exact ⟨x :: before, y, after, rfl, List.forall_mem_cons.2 ⟨hok, hbefore⟩, hy⟩
    · rintro ⟨_ | ⟨first, before⟩, y, after, hsplit, hbefore, hy⟩
      · obtain ⟨rfl, -⟩ := List.cons.inj hsplit
        exact .inl hy
      · obtain ⟨rfl, rfl⟩ := List.cons.inj hsplit
        obtain ⟨hok, hbefore⟩ := List.forall_mem_cons.1 hbefore
        exact .inr ⟨hok, before, y, after, rfl, hbefore, hy⟩

/-- Optional results are all there when each of them is. -/
theorem mapM_eq_some_iff {g : α → Option β} {ys : List β} :
    xs.mapM g = some ys ↔ List.Forall₂ (fun x y => g x = some y) xs ys := by
  induction xs generalizing ys with
  | nil => simp [eq_comm]
  | cons x rest ih =>
    simp only [List.mapM_cons, Option.bind_eq_bind, Option.bind_eq_some_iff, ih,
      List.forall₂_cons_left_iff, Option.pure_def, Option.some.injEq, @eq_comm _ _ ys,
      exists_and_left]

end

/-! ### The record of an object -/

namespace Yaml.Datum

/-- What a record has under a name: of its fields just one has that name, or none has. -/
def FieldIs (fields : List (String × Datum)) (name : String) (value : Option Datum) : Prop :=
  (fields.filter fun field => field.1 = name) = value.toList.map fun value => (name, value)

/-- The fields are found when each of the names occurs at most once. -/
theorem uniqueFields?_eq_some_iff {names : List String} {fields : List (String × Datum)}
    {values : List (Option Datum)} :
    uniqueFields? names fields = some values ↔ List.Forall₂ (FieldIs fields) names values := by
  rw [uniqueFields?, mapM_eq_some_iff]
  suffices hfield : ∀ name value, _ ↔ FieldIs fields name value from
    ⟨fun h => h.imp fun name value => (hfield name value).1,
      fun h => h.imp fun name value => (hfield name value).2⟩
  intro name value
  have hname : ∀ field ∈ fields.filter fun field => field.1 = name, field.1 = name :=
    fun field hmem => by simpa using (List.mem_filter.1 hmem).2
  rw [FieldIs]
  split
  case h_1 hnone => cases value <;> simp [hnone]
  case h_2 field hone =>
    rw [hone] at hname ⊢
    obtain rfl : field.1 = name := hname _ List.mem_cons_self
    cases value <;> simp [Prod.ext_iff]
  case h_3 hnone hone =>
    cases value with
    | none => simpa using hnone
    | some value => simpa using fun h => hone _ h

/-- The values of a record are those of its named fields. -/
theorem record?_eq_some_iff {names : List String} {datum : Datum}
    {values : List (Option Datum)} :
    datum.record? names = some values ↔
      ∃ fields, datum.namedFields? = some fields ∧ List.Forall₂ (FieldIs fields) names values := by
  simp [record?, Option.bind_eq_some_iff, uniqueFields?_eq_some_iff]

/-- The text of a text field, which has a default when it is left out. -/
def textField? (default : String) : Option Datum → Option String
  | none => some default
  | some datum => datum.asString?

/-- The text of a text field that may be left out or hold nothing. -/
def optionalTextField? : Option Datum → Option (Option String)
  | none => some none
  | some null => some none
  | some datum => datum.asString?.map some

/-- The document value of a body, which is nothing when it is left out. -/
def bodyField? : Option Datum → Option Value
  | none => some .null
  | some datum => datum.toValue?

/-- Fields of metadata that name an object: its name, its namespace and its cluster. -/
structure NamesObject (fields : List (String × Datum)) (object : MeshObject) : Prop where
  /-- There is a name, which is a text. -/
  name : ∃ name, FieldIs fields "name" (some name) ∧ name.asString? = some object.name
  /-- The namespace is empty when it is left out. -/
  ns : ∃ ns, FieldIs fields "namespace" ns ∧ textField? "" ns = some object.ns
  /-- The cluster need not be given. -/
  cluster : ∃ cluster, FieldIs fields "clusterName" cluster ∧
    optionalTextField? cluster = some object.clusterName

/-- Fields of a document that describe an object: its kind, its metadata and its body. -/
structure DescribesObject (fields : List (String × Datum)) (object : MeshObject) : Prop where
  /-- There is a kind, which is a text. -/
  kind : ∃ word, FieldIs fields "kind" (some word) ∧ word.asString?.isSome
  /-- There is metadata, which is a record that names the object. -/
  metadata : ∃ metadata named, FieldIs fields "metadata" (some metadata) ∧
    metadata.namedFields? = some named ∧ NamesObject named object
  /-- The body is a document value. -/
  spec : ∃ spec, FieldIs fields "spec" spec ∧ bodyField? spec = some object.spec

/-- A document that reads as the metadata and the body of an object. -/
def ReadsAs (datum : Datum) (object : MeshObject) : Prop :=
  ∃ fields, datum.namedFields? = some fields ∧ DescribesObject fields object

/-- The kind of the object plays no part in reading the rest of it. -/
theorem ReadsAs.ofKind {datum : Datum} {object : MeshObject} (h : datum.ReadsAs object)
    (kind : Kind) : datum.ReadsAs { object with kind := kind } := by
  obtain ⟨fields, hfields, hkind, ⟨metadata, named, hmetadata, hnamed, hobject⟩, hspec⟩ := h
  exact ⟨fields, hfields, hkind, ⟨metadata, named, hmetadata, hnamed, hobject.name, hobject.ns,
    hobject.cluster⟩, hspec⟩

/-- An object is read field by field from the records of a document and its metadata. -/
theorem ofDatum?_of_record {kind : Kind} {datum word metadata name : Datum}
    {spec ns cluster : Option Datum}
    (hvalues : datum.record? ["kind", "metadata", "spec"] =
      some [some word, some metadata, spec])
    (hnamed : metadata.record? ["name", "namespace", "clusterName"] =
      some [some name, ns, cluster]) :
    MeshObject.ofDatum? kind datum =
      word.asString?.bind fun _ => name.asString?.bind fun name => (textField? "" ns).bind fun ns =>
        (optionalTextField? cluster).bind fun clusterName => (bodyField? spec).bind fun spec =>
          some { kind, name, ns, clusterName, spec } := by
  rw [MeshObject.ofDatum?, hvalues]
  simp only [Option.bind_eq_bind, Option.bind_some, hnamed]
  cases ns <;> cases spec <;> obtain _ | _ | _ := cluster <;> rfl

/-- Only a record with a kind and metadata, which is a record with a name, is read as an object. -/
theorem exists_record?_of_ofDatum? {kind : Kind} {datum : Datum} {object : MeshObject}
    (h : MeshObject.ofDatum? kind datum = some object) :
    ∃ word metadata spec name ns cluster,
      datum.record? ["kind", "metadata", "spec"] = some [some word, some metadata, spec] ∧
        metadata.record? ["name", "namespace", "clusterName"] = some [some name, ns, cluster] := by
  rw [MeshObject.ofDatum?] at h
  obtain ⟨values, hvalues, h⟩ := Option.bind_eq_some_iff.1 h
  split at h
  next word metadata spec =>
    obtain ⟨info, hinfo, h⟩ := Option.bind_eq_some_iff.1 h
    split at h
    next name ns cluster => exact ⟨word, metadata, spec, name, ns, cluster, hvalues, hinfo⟩
    next => cases h
  next => cases h

/-- An object of a kind is read from the documents that describe it. -/
theorem ofDatum?_eq_some_iff {kind : Kind} {datum : Datum} {object : MeshObject} :
    MeshObject.ofDatum? kind datum = some object ↔ object.kind = kind ∧ datum.ReadsAs object := by
  constructor
  · intro h
    obtain ⟨word, metadata, spec, name, ns, cluster, hvalues, hinfo⟩ :=
      exists_record?_of_ofDatum? h
    rw [ofDatum?_of_record hvalues hinfo] at h
    simp only [Option.bind_eq_some_iff, Option.some.injEq] at h
    obtain ⟨text, htext, nameText, hname, nsText, hns, clusterName, hcluster, body, hbody, rfl⟩ := h
    obtain ⟨fields, hfields, hvalues⟩ := record?_eq_some_iff.1 hvalues
    obtain ⟨named, hnamed, hinfo⟩ := record?_eq_some_iff.1 hinfo
    simp only [List.forall₂_cons, List.forall₂_nil_left_iff, and_true] at hvalues hinfo
    obtain ⟨hword, hmetadata, hspec⟩ := hvalues
    obtain ⟨hnameField, hnsField, hclusterField⟩ := hinfo
    exact ⟨rfl, fields, hfields, ⟨word, hword, by simp [htext]⟩,
      ⟨metadata, named, hmetadata, hnamed, ⟨name, hnameField, hname⟩, ⟨ns, hnsField, hns⟩,
        ⟨cluster, hclusterField, hcluster⟩⟩, spec, hspec, hbody⟩
  · rintro ⟨rfl, fields, hfields, ⟨word, hword, hisText⟩,
      ⟨metadata, named, hmetadata, hnamed, ⟨⟨name, hnameField, hname⟩, ⟨ns, hnsField, hns⟩,
        cluster, hclusterField, hcluster⟩⟩, spec, hspec, hbody⟩
    obtain ⟨text, htext⟩ := Option.isSome_iff_exists.1 hisText
    have hvalues : datum.record? ["kind", "metadata", "spec"] =
        some [some word, some metadata, spec] :=
      record?_eq_some_iff.2 ⟨fields, hfields, by simp [hword, hmetadata, hspec]⟩
    have hinfo : metadata.record? ["name", "namespace", "clusterName"] =
        some [some name, ns, cluster] :=
      record?_eq_some_iff.2 ⟨named, hnamed, by simp [hnameField, hnsField, hclusterField]⟩
    rw [ofDatum?_of_record hvalues hinfo, htext, hname, hns, hcluster, hbody]
    rfl

end Yaml.Datum

/-! ### One document -/

/-- A word names the kind whose label it is in lower case. -/
theorem Kind.ofWord_eq_ok_iff {word : String} {kind : Kind} :
    ofWord word = .ok kind ↔ kind.label = word.toLower := by
  rw [ofWord]
  split
  next found hfound =>
    have hlabel : found.label = word.toLower := by simpa using List.find?_some hfound
    rw [← hlabel, Except.ok.injEq]
    cases found <;> cases kind <;> decide
  next hnone =>
    have hall : kind ∈ Kind.all := by cases kind <;> decide
    simpa using List.find?_eq_none.1 hnone kind hall

/-- What a document adds to a snapshot: an object, or nothing. -/
inductive Contributes : Option Datum → Option MeshObject → Prop
  /-- A document that holds nothing. -/
  | empty {datum : Datum} (hnull : datum.untagged = .null) : Contributes (some datum) none
  /-- A document of a kind that is not analysed, whatever else it holds. -/
  | foreign {datum : Datum} {word : String} (hword : kindWord? datum = some word)
    (hkind : ∀ kind : Kind, kind.label ≠ word.toLower) : Contributes (some datum) none
  /-- A document that describes an object of an analysed kind. -/
  | object {datum : Datum} {word : String} {object : MeshObject}
    (hword : kindWord? datum = some word) (hkind : object.kind.label = word.toLower)
    (hreads : datum.ReadsAs object) : Contributes (some datum) (some object)

/-- What is wrong with a document. -/
inductive DocumentFault where
  /-- It is no YAML. -/
  | unparsed
  /-- It has no kind, or one that is not a text. -/
  | kindless
  /-- It is of an analysed kind, but does not read as metadata and body. -/
  | unread (kind : Kind)

/-- The failure of the manifest whose document in a place has a fault. -/
def DocumentFault.failure (position : Nat) : DocumentFault → Failure
  | unparsed =>
    ⟨.yaml, "Failed to parse snapshot document " ++ toString position ++ ": YAML parsing failed"⟩
  | kindless => ⟨.snapshot (some position), "document has no kind"⟩
  | unread kind =>
    ⟨.yaml, "Failed to read " ++ kind.label ++ " in snapshot document " ++ toString position ++
      ": YAML parsing failed"⟩

/-- Documents with a fault. -/
inductive Offends : Option Datum → DocumentFault → Prop
  /-- A document that could not be parsed. -/
  | unparsed : Offends none .unparsed
  /-- A document that holds something, but under no kind. -/
  | kindless {datum : Datum} (hnull : datum.untagged ≠ .null) (hword : kindWord? datum = none) :
    Offends (some datum) .kindless
  /-- A document of an analysed kind that describes no object. -/
  | unread {datum : Datum} {word : String} {kind : Kind} (hword : kindWord? datum = some word)
    (hkind : kind.label = word.toLower) (hreads : ∀ object, ¬ datum.ReadsAs object) :
    Offends (some datum) (.unread kind)

/-- Only a document that holds something has a kind. -/
theorem untagged_ne_null_of_kindWord? {datum : Datum} {word : String}
    (h : kindWord? datum = some word) : datum.untagged ≠ .null := by
  obtain ⟨before, kind, after, hfields, -, -⟩ := kindWord?_eq_some_iff.1 h
  simp [hfields]

/-- What a document contributes is what is read from it. -/
theorem Contributes.documentObject_eq {document : Option Datum} {found : Option MeshObject}
    (h : Contributes document found) (position : Nat) :
    documentObject position document = .ok found := by
  cases h with
  | empty hnull =>
    simp only [documentObject, hnull]
    rfl
  | foreign hword hkind =>
    simp only [documentObject, hword]
    split
    · rfl
    · split
      · rfl
      next kind hofWord => exact absurd (Kind.ofWord_eq_ok_iff.1 hofWord) (hkind kind)
  | object hword hkind hreads =>
    simp only [documentObject, hword]
    split
    next hnull => exact absurd hnull (untagged_ne_null_of_kindWord? hword)
    · rw [Kind.ofWord_eq_ok_iff.2 hkind]
      simp only [Yaml.Datum.ofDatum?_eq_some_iff.2 ⟨rfl, hreads⟩]
      rfl

/-- A document with a fault fails with it. -/
theorem Offends.documentObject_eq {document : Option Datum} {fault : DocumentFault}
    (h : Offends document fault) (position : Nat) :
    documentObject position document = .error (fault.failure position) := by
  cases h with
  | unparsed =>
    simp [documentObject, DocumentFault.failure, Failure.badYaml, Failure.inContext,
      String.append_assoc]
  | kindless hnull hword => simp [documentObject, hword, DocumentFault.failure]
  | @unread datum word kind hword hkind hreads =>
    have hnone : MeshObject.ofDatum? kind datum = none :=
      Option.eq_none_iff_forall_ne_some.2 fun object hobject =>
        hreads object (Yaml.Datum.ofDatum?_eq_some_iff.1 hobject).2
    simp [documentObject, hword, untagged_ne_null_of_kindWord? hword,
      Kind.ofWord_eq_ok_iff.2 hkind, hnone, DocumentFault.failure, Failure.badYaml,
      Failure.inContext, String.append_assoc]

/-- Every document contributes or has a fault. -/
theorem contributes_or_offends (document : Option Datum) :
    (∃ found, Contributes document found) ∨ ∃ fault, Offends document fault := by
  obtain _ | datum := document
  · exact .inr ⟨_, .unparsed⟩
  by_cases hnull : datum.untagged = .null
  · exact .inl ⟨_, .empty hnull⟩
  cases hword : kindWord? datum with
  | none => exact .inr ⟨_, .kindless hnull hword⟩
  | some word =>
    by_cases hkind : ∃ kind : Kind, kind.label = word.toLower
    · obtain ⟨kind, hkind⟩ := hkind
      by_cases hreads : ∃ object, datum.ReadsAs object
      · obtain ⟨object, hreads⟩ := hreads
        exact .inl ⟨_, .object hword hkind (hreads.ofKind kind)⟩
      · exact .inr ⟨_, .unread hword hkind (not_exists.1 hreads)⟩
    · exact .inl ⟨_, .foreign hword (not_exists.1 hkind)⟩

/-- A document contributes just what is read from it. -/
theorem documentObject_eq_ok_iff {position : Nat} {document : Option Datum}
    {found : Option MeshObject} :
    documentObject position document = .ok found ↔ Contributes document found := by
  refine ⟨fun h => ?_, fun h => h.documentObject_eq position⟩
  obtain ⟨other, hother⟩ | ⟨fault, hfault⟩ := contributes_or_offends document
  · obtain rfl := Except.ok.inj (h.symm.trans (hother.documentObject_eq position))
    exact hother
  · cases h.symm.trans (hfault.documentObject_eq position)

/-- A document fails just with its fault. -/
theorem documentObject_eq_error_iff {position : Nat} {document : Option Datum}
    {failure : Failure} :
    documentObject position document = .error failure ↔
      ∃ fault, Offends document fault ∧ failure = fault.failure position := by
  refine ⟨fun h => ?_, fun ⟨fault, hfault, hfailure⟩ =>
    hfailure ▸ hfault.documentObject_eq position⟩
  obtain ⟨found, hfound⟩ | ⟨fault, hfault⟩ := contributes_or_offends document
  · cases h.symm.trans (hfound.documentObject_eq position)
  · exact ⟨fault, hfault, Except.error.inj (h.symm.trans (hfault.documentObject_eq position))⟩

/-- A document that does not stop its manifest: it was parsed, it has a kind that is a text unless
it holds nothing, and it reads as metadata and body if its kind is one that is analysed. -/
def WellFormed : Option Datum → Prop
  | none => False
  | some datum => datum.untagged ≠ .null →
    ∃ word, kindWord? datum = some word ∧
      ∀ kind : Kind, kind.label = word.toLower → ∃ object, datum.ReadsAs object

/-- The documents that contribute are the well-formed ones. -/
theorem wellFormed_iff {document : Option Datum} :
    WellFormed document ↔ ∃ found, Contributes document found := by
  constructor
  · intro h
    obtain hfound | ⟨fault, hfault⟩ := contributes_or_offends document
    · exact hfound
    cases hfault with
    | unparsed => exact h.elim
    | kindless hnull hword =>
      obtain ⟨word, hsome, -⟩ := h hnull
      rw [hword] at hsome
      cases hsome
    | unread hword hkind hreads =>
      obtain ⟨word, hsome, hall⟩ := h (untagged_ne_null_of_kindWord? hword)
      obtain rfl := Option.some.inj (hword.symm.trans hsome)
      obtain ⟨object, hobject⟩ := hall _ hkind
      exact absurd hobject (hreads object)
  · rintro ⟨found, hfound⟩
    cases hfound with
    | empty hnull => exact fun hne => absurd hnull hne
    | foreign hword hkind => exact fun _ => ⟨_, hword, fun kind h => absurd h (hkind kind)⟩
    | object hword hkind hreads => exact fun _ => ⟨_, hword, fun _ _ => ⟨_, hreads⟩⟩

/-! ### The documents of a manifest -/

namespace Snapshot

/-- The objects of a list, kind by kind, are the objects of the list. -/
theorem ofKind_ofObjects (objects : List MeshObject) (kind : Kind) :
    (ofObjects objects).ofKind kind = objects.filter fun object => object.kind = kind := by
  cases kind <;> rfl

/-- No object of a list is lost in its snapshot, and none is taken twice. -/
theorem objects_ofObjects_perm (objects : List MeshObject) :
    (ofObjects objects).objects.Perm objects := by
  induction objects with
  | nil => rfl
  | cons object rest ih =>
    refine List.Perm.trans ?_ (ih.cons object)
    -- The object stands at the head of its own kind, behind the objects of the kinds before it.
    cases hkind : object.kind with
    | gateway => simp [ofObjects, Snapshot.objects, hkind]
    | virtualService => simp [ofObjects, Snapshot.objects, hkind, List.perm_middle]
    | destinationRule =>
      simpa [ofObjects, Snapshot.objects, hkind] using
        @List.perm_middle _ object ((ofObjects rest).gateways ++ (ofObjects rest).virtualServices) _
    | peerAuthentication =>
      simpa [ofObjects, Snapshot.objects, hkind] using
        @List.perm_middle _ object ((ofObjects rest).gateways ++
          (ofObjects rest).virtualServices ++ (ofObjects rest).destinationRules) _

/-- Documents make a snapshot when each contributes something: the snapshot of the objects they
contribute, in the order of the documents. -/
theorem ofDocuments_eq_ok_iff {documents : List (Option Datum)} {snapshot : Snapshot} :
    ofDocuments documents = .ok snapshot ↔
      ∃ found, List.Forall₂ Contributes documents found ∧
        snapshot = ofObjects (found.filterMap id) := by
  have hread : ∀ found, documents.zipIdx.mapM (fun document => documentObject document.2 document.1)
      = .ok found ↔ List.Forall₂ Contributes documents found := by
    intro found
    simp only [mapM_eq_ok_iff, documentObject_eq_ok_iff]
    rw [← List.forall₂_map_left_iff, List.zipIdx_map_fst]
  simp only [← hread, ofDocuments]
  cases documents.zipIdx.mapM fun document => documentObject document.2 document.1 with
  | error failure => simp [bind, Except.bind]
  | ok found => simp [bind, Except.bind, pure, Except.pure, eq_comm]

/-- Documents fail as the first of them does that has a fault, in its place among all of them. -/
theorem ofDocuments_eq_error_iff {documents : List (Option Datum)} {failure : Failure} :
    ofDocuments documents = .error failure ↔
      ∃ before document after fault, documents = before ++ document :: after ∧
        (∀ earlier ∈ before, WellFormed earlier) ∧ Offends document fault ∧
        failure = fault.failure before.length := by
  have hread : ofDocuments documents = .error failure ↔
      documents.zipIdx.mapM (fun document => documentObject document.2 document.1)
        = .error failure := by
    rw [ofDocuments]
    cases documents.zipIdx.mapM fun document => documentObject document.2 document.1 <;>
      simp [bind, Except.bind, pure, Except.pure]
  simp only [hread, mapM_eq_error_iff, documentObject_eq_ok_iff, documentObject_eq_error_iff,
    ← wellFormed_iff]
  constructor
  · rintro ⟨before, ⟨document, position⟩, after, hsplit, hbefore, fault, hfault, rfl⟩
    obtain ⟨first, rest, rfl, rfl, hrest⟩ := List.zipIdx_eq_append_iff.1 hsplit
    cases rest with
    | nil => simp at hrest
    | cons next rest =>
      simp only [List.zipIdx_cons, List.cons.injEq, Prod.mk.injEq] at hrest
      obtain ⟨⟨rfl, rfl⟩, rfl⟩ := hrest
      refine ⟨first, _, rest, fault, rfl, fun earlier hmem => ?_, hfault, by simp⟩
      rw [← List.zipIdx_map_fst 0 first] at hmem
      obtain ⟨numbered, hnumbered, rfl⟩ := List.mem_map.1 hmem
      exact hbefore numbered hnumbered
  · rintro ⟨before, document, after, fault, rfl, hbefore, hfault, rfl⟩
    refine ⟨before.zipIdx, (document, before.length), after.zipIdx (before.length + 1),
      by simp [List.zipIdx_append], fun earlier hmem => ?_, fault, hfault, rfl⟩
    exact hbefore _ (List.fst_mem_of_mem_zipIdx hmem)

/-- Documents make a snapshot when all of them are well formed. -/
theorem exists_ofDocuments_eq_ok_iff {documents : List (Option Datum)} :
    (∃ snapshot, ofDocuments documents = .ok snapshot) ↔
      ∀ document ∈ documents, WellFormed document := by
  constructor
  · rintro ⟨snapshot, h⟩
    obtain ⟨found, hfound, -⟩ := ofDocuments_eq_ok_iff.1 h
    have hboth : List.Forall₂ (fun document found => WellFormed document ∧
        Contributes document found) documents found :=
      hfound.imp fun document found hdocument => ⟨wellFormed_iff.2 ⟨found, hdocument⟩, hdocument⟩
    exact ((List.forall₂_and_left _ _).1 hboth).1
  · intro h
    cases hread : ofDocuments documents with
    | ok snapshot => exact ⟨snapshot, rfl⟩
    | error failure =>
      obtain ⟨before, document, after, fault, rfl, -, hfault, -⟩ := ofDocuments_eq_error_iff.1 hread
      obtain ⟨found, hfound⟩ := wellFormed_iff.1 (h document (by simp))
      cases (hfound.documentObject_eq 0).symm.trans (hfault.documentObject_eq 0)

/-- A manifest is read just when all its documents are well formed, and the snapshot then has the
objects that they contribute, each once and those of a kind in order. Otherwise the first document
with a fault decides the failure, which names its place. -/
theorem ofYaml_documentwise (documents : List (Option Datum)) :
    (∀ text, ofYaml text = ofDocuments (Yaml.readAll text)) ∧
    ((∃ snapshot, ofDocuments documents = .ok snapshot) ↔
      ∀ document ∈ documents, WellFormed document) ∧
    (∀ snapshot, ofDocuments documents = .ok snapshot ↔
      ∃ found, List.Forall₂ Contributes documents found ∧
        snapshot = ofObjects (found.filterMap id) ∧
        snapshot.objects.Perm (found.filterMap id) ∧
        ∀ kind, snapshot.ofKind kind =
          (found.filterMap id).filter fun object => object.kind = kind) ∧
    ∀ failure, ofDocuments documents = .error failure ↔
      ∃ before document after fault, documents = before ++ document :: after ∧
        (∀ earlier ∈ before, WellFormed earlier) ∧ Offends document fault ∧
        failure = fault.failure before.length := by
  refine ⟨fun text => rfl, exists_ofDocuments_eq_ok_iff, fun snapshot => ?_,
    fun failure => ofDocuments_eq_error_iff⟩
  rw [ofDocuments_eq_ok_iff]
  constructor
  · rintro ⟨found, hfound, rfl⟩
    exact ⟨found, hfound, rfl, objects_ofObjects_perm _, ofKind_ofObjects _⟩
  · rintro ⟨found, hfound, hsnapshot, -, -⟩
    exact ⟨found, hfound, hsnapshot⟩

end Snapshot

end MeshAudit

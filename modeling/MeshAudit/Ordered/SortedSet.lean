/-!
# Sorted sets

A finite set is kept as the strictly increasing list of its elements, so two sets with the same
elements are the same value and are written in the same order. The main statements say which
elements an insertion and a collection hold.
-/

namespace MeshAudit

open Std

/-- Put an element into its place in an increasing list; an element already there is kept. -/
def insertSorted {α : Type} [Ord α] (a : α) : List α → List α
  | [] => [a]
  | b :: rest =>
    match compare a b with
    | .lt => a :: b :: rest
    | .eq => b :: rest
    | .gt => b :: insertSorted a rest

/-- Each element is below all elements after it. -/
abbrev StrictlySorted {α : Type} [Ord α] (xs : List α) : Prop :=
  xs.Pairwise fun a b => compare a b = .lt

/-- Insertion adds the new element and nothing else. -/
theorem mem_insertSorted {α : Type} [Ord α] [LawfulEqOrd α] {a x : α} {xs : List α} :
    x ∈ insertSorted a xs ↔ x = a ∨ x ∈ xs := by
  induction xs with
  | nil => simp [insertSorted]
  | cons b rest ih =>
    unfold insertSorted
    cases h : compare a b with
    | lt => simp
    | eq =>
      have hab : a = b := LawfulEqCmp.eq_of_compare h
      simp [hab]
    | gt => simp [ih, or_left_comm]

/-- Insertion keeps an increasing list increasing. -/
theorem StrictlySorted.insertSorted {α : Type} [Ord α] [TransOrd α] [LawfulEqOrd α] {a : α}
    {xs : List α} (sorted : StrictlySorted xs) : StrictlySorted (insertSorted a xs) := by
  induction xs with
  | nil => simp [MeshAudit.insertSorted]
  | cons b rest ih =>
    obtain ⟨below, tail⟩ := List.pairwise_cons.1 sorted
    unfold MeshAudit.insertSorted
    cases h : compare a b with
    | lt =>
      refine List.pairwise_cons.2 ⟨fun x hx => ?_, sorted⟩
      rcases List.mem_cons.1 hx with rfl | hx
      · exact h
      · exact TransCmp.lt_trans h (below x hx)
    | eq => exact sorted
    | gt =>
      refine List.pairwise_cons.2 ⟨fun x hx => ?_, ih tail⟩
      rcases mem_insertSorted.1 hx with rfl | hx
      · exact OrientedCmp.gt_iff_lt.1 h
      · exact below x hx

/-- Two lists in one strict order are equal when they have the same elements. -/
theorem eq_of_pairwise_of_mem_iff {α : Type} {lt : α → α → Prop} {xs ys : List α}
    (asymm : ∀ a b, lt a b → ¬ lt b a) (hxs : xs.Pairwise lt) (hys : ys.Pairwise lt)
    (h : ∀ a, a ∈ xs ↔ a ∈ ys) : xs = ys := by
  have hnodup : ∀ {zs : List α}, zs.Pairwise lt → zs.Nodup := by
    intro zs hzs
    refine hzs.imp fun {a b} hlt => ?_
    rintro rfl
    exact asymm a a hlt hlt
  have hperm : xs.Perm ys := (List.perm_ext_iff_of_nodup (hnodup hxs) (hnodup hys)).2 h
  exact hperm.eq_of_pairwise (fun a b _ _ hab hba => absurd hba (asymm a b hab)) hxs hys

/-- A finite set, kept as its elements in increasing order. -/
structure SortedSet (α : Type) [Ord α] where
  /-- The elements, smallest first. -/
  toList : List α
  /-- The elements increase strictly, so none occurs twice. -/
  sorted : StrictlySorted toList

namespace SortedSet

variable {α : Type} [Ord α]

/-- Two sets are equal when they list the same elements. -/
theorem ext {s t : SortedSet α} (h : s.toList = t.toList) : s = t := by
  cases s; cases t; cases h; rfl

instance [DecidableEq α] : DecidableEq (SortedSet α) := fun s t =>
  if h : s.toList = t.toList then isTrue (ext h)
  else isFalse fun hst => h (congrArg toList hst)

instance : Membership α (SortedSet α) := ⟨fun s a => a ∈ s.toList⟩

instance [DecidableEq α] (a : α) (s : SortedSet α) : Decidable (a ∈ s) :=
  inferInstanceAs (Decidable (a ∈ s.toList))

/-- The set without elements. -/
def empty : SortedSet α := ⟨[], List.Pairwise.nil⟩

instance : EmptyCollection (SortedSet α) := ⟨empty⟩

instance : Inhabited (SortedSet α) := ⟨empty⟩

/-- The empty set holds nothing. -/
@[simp] theorem not_mem_empty {x : α} : ¬ x ∈ (∅ : SortedSet α) := List.not_mem_nil

/-- No element is listed twice. -/
theorem nodup_toList [ReflOrd α] (s : SortedSet α) : s.toList.Nodup := by
  refine s.sorted.imp fun {a b} hlt => ?_
  rintro rfl
  rw [compare_self] at hlt
  exact absurd hlt (by decide)

/-- Two sets are equal when they hold the same elements. -/
theorem ext_mem [OrientedOrd α] {s t : SortedSet α} (h : ∀ x, x ∈ s ↔ x ∈ t) : s = t := by
  refine ext (eq_of_pairwise_of_mem_iff (fun a b hab hba => ?_) s.sorted t.sorted h)
  exact OrientedCmp.not_lt_of_lt hab hba

variable [TransOrd α] [LawfulEqOrd α]

/-- The set with one more element. -/
def insert (s : SortedSet α) (a : α) : SortedSet α := ⟨insertSorted a s.toList, s.sorted.insertSorted⟩

/-- The set with all elements of a list added. -/
def insertMany (s : SortedSet α) (xs : List α) : SortedSet α := xs.foldl insert s

/-- The set of the elements of a list. -/
def ofList (xs : List α) : SortedSet α := empty.insertMany xs

/-- The elements of either set. -/
def union (s t : SortedSet α) : SortedSet α := s.insertMany t.toList

/-- An inserted set holds the new element beside the old ones. -/
@[simp] theorem mem_insert {s : SortedSet α} {a x : α} : x ∈ s.insert a ↔ x = a ∨ x ∈ s :=
  mem_insertSorted

/-- Adding a list adds exactly its elements. -/
@[simp] theorem mem_insertMany {s : SortedSet α} {xs : List α} {x : α} :
    x ∈ s.insertMany xs ↔ x ∈ s ∨ x ∈ xs := by
  induction xs generalizing s with
  | nil => simp [insertMany]
  | cons a rest ih =>
    have step : s.insertMany (a :: rest) = (s.insert a).insertMany rest := rfl
    rw [step, ih, mem_insert, List.mem_cons, or_assoc, or_left_comm]

/-- The set of a list holds exactly the elements of the list. -/
@[simp] theorem mem_ofList {xs : List α} {x : α} : x ∈ ofList xs ↔ x ∈ xs := by
  have none : ¬ x ∈ (empty : SortedSet α) := List.not_mem_nil
  simp [ofList, none]

/-- The set of a list does not depend on the order of the list. -/
theorem ofList_eq_of_perm {xs ys : List α} (h : xs.Perm ys) : ofList xs = ofList ys :=
  ext_mem fun _ => by rw [mem_ofList, mem_ofList, h.mem_iff]

/-- A union holds the elements of both sets. -/
@[simp] theorem mem_union {s t : SortedSet α} {x : α} : x ∈ s.union t ↔ x ∈ s ∨ x ∈ t :=
  mem_insertMany

end SortedSet

end MeshAudit

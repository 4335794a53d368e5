import Mathlib.Algebra.BigOperators.Group.List.Basic
import Mathlib.Data.List.Induction
import Mathlib.Data.List.Perm.Basic
import MeshAudit.Gateway.Overlap
import MeshAudit.Proofs.Gateway.Exposure
import MeshAudit.Proofs.Graph.Contents

/-!
# The conflicts that the overlap check reports

The bindings of all gateways form one list, and two bindings at different positions of it are in
conflict when they are served together and overlap. A single pass over the list compares every
binding with the earlier ones only. It reports each conflict from both of its ends all the same, so
the graph counts for every gateway and place exactly the other bindings in conflict there.
-/

namespace MeshAudit

/-- Going through the kept items of a list is going through all with nothing for the others. -/
theorem flatMap_filter {α β : Type} (keep : α → Bool) (f : α → List β) (xs : List α) :
    (xs.filter keep).flatMap f = xs.flatMap fun x => if keep x then f x else [] := by
  induction xs with
  | nil => rfl
  | cons x rest ih => cases hx : keep x <;> simp [hx, ih]

/-- Conflicts go both ways. -/
theorem ScopedBinding.conflicts_comm (b c : ScopedBinding) : b.conflicts c = c.conflicts b := by
  unfold ScopedBinding.conflicts
  rw [HostBinding.overlaps_comm, decide_eq_decide.2 (eq_comm (a := b.selector))]

/-- The bindings in conflict with the one at a position, without that one itself. -/
def rivals (bindings : List ScopedBinding) (b : ScopedBinding × Nat) :
    List (ScopedBinding × Nat) :=
  bindings.zipIdx.filter fun c => c.2 ≠ b.2 && b.1.conflicts c.1

/-- Every binding with every other one in conflict with it. -/
def conflictPairs (bindings : List ScopedBinding) :
    List ((ScopedBinding × Nat) × (ScopedBinding × Nat)) :=
  bindings.zipIdx.flatMap fun b => (rivals bindings b).map fun c => (b, c)

/-- The two ends of a conflict pair are bindings at different positions in conflict. -/
theorem mem_conflictPairs {bindings : List ScopedBinding} {b c : ScopedBinding × Nat} :
    (b, c) ∈ conflictPairs bindings ↔
      b ∈ bindings.zipIdx ∧ c ∈ bindings.zipIdx ∧ c.2 ≠ b.2 ∧ b.1.conflicts c.1 = true := by
  simp only [conflictPairs, rivals, List.mem_flatMap, List.mem_map, List.mem_filter,
    Bool.and_eq_true, decide_eq_true_eq, Prod.mk.injEq]
  constructor
  · intro h
    obtain ⟨b', hb, c', ⟨hc, hne, h⟩, rfl, rfl⟩ := h
    exact ⟨hb, hc, hne, h⟩
  · intro h
    obtain ⟨hb, hc, hne, h⟩ := h
    exact ⟨b, hb, c, ⟨hc, hne, h⟩, rfl, rfl⟩

/-- A conflict pair is one from its other end too. -/
theorem swap_mem_conflictPairs {bindings : List ScopedBinding} {b c : ScopedBinding × Nat}
    (h : (b, c) ∈ conflictPairs bindings) : (c, b) ∈ conflictPairs bindings := by
  obtain ⟨hb, hc, hne, hconf⟩ := mem_conflictPairs.1 h
  rw [ScopedBinding.conflicts_comm] at hconf
  exact mem_conflictPairs.2 ⟨hc, hb, hne.symm, hconf⟩

/-- A new binding at the end is a rival of the earlier bindings in conflict with it. -/
theorem rivals_append_of_mem {bindings : List ScopedBinding} (b : ScopedBinding)
    {c : ScopedBinding × Nat} (hc : c ∈ bindings.zipIdx) :
    rivals (bindings ++ [b]) c =
      rivals bindings c ++ if b.conflicts c.1 then [(b, bindings.length)] else [] := by
  have hlt : c.2 < bindings.length := List.snd_lt_of_mem_zipIdx hc
  have hne : bindings.length ≠ c.2 := by omega
  unfold rivals
  rw [List.zipIdx_append, List.filter_append, ScopedBinding.conflicts_comm b c.1]
  cases hconf : c.1.conflicts b <;> simp [hconf, hne]

/-- The rivals of a new binding at the end are the earlier bindings in conflict with it. -/
theorem rivals_append_self (bindings : List ScopedBinding) (b : ScopedBinding) :
    rivals (bindings ++ [b]) (b, bindings.length) =
      bindings.zipIdx.filter fun c => b.conflicts c.1 := by
  unfold rivals
  rw [List.zipIdx_append, List.filter_append]
  have hearlier : ∀ c ∈ bindings.zipIdx,
      (decide (c.2 ≠ bindings.length) && b.conflicts c.1) = b.conflicts c.1 := by
    intro c hc
    have hlt : c.2 < bindings.length := List.snd_lt_of_mem_zipIdx hc
    have hne : c.2 ≠ bindings.length := by omega
    simp [hne]
  rw [List.filter_congr hearlier]
  simp

/-- A new binding at the end adds, for each earlier one in conflict with it, both pairs. -/
theorem conflictPairs_append (bindings : List ScopedBinding) (b : ScopedBinding) :
    (conflictPairs (bindings ++ [b])).Perm
      (conflictPairs bindings ++ (bindings.zipIdx.filter fun c => b.conflicts c.1).flatMap fun c =>
        [((b, bindings.length), c), (c, (b, bindings.length))]) := by
  let last := (b, bindings.length)
  let met := bindings.zipIdx.filter fun c => b.conflicts c.1
  have hsplit : conflictPairs (bindings ++ [b]) =
      (bindings.zipIdx.flatMap fun c => (rivals bindings c).map (fun d => (c, d)) ++
        if b.conflicts c.1 then [(c, last)] else []) ++ met.map fun c => (last, c) := by
    have hold : ∀ c ∈ bindings.zipIdx, (rivals (bindings ++ [b]) c).map (fun d => (c, d)) =
        (rivals bindings c).map (fun d => (c, d)) ++
          if b.conflicts c.1 then [(c, last)] else [] := by
      intro c hc
      rw [rivals_append_of_mem b hc, List.map_append]
      cases b.conflicts c.1 <;> rfl
    rw [conflictPairs, List.zipIdx_append, List.flatMap_append, List.flatMap_congr hold]
    simp [rivals_append_self, met, last]
  have hmet : bindings.zipIdx.flatMap (fun c => if b.conflicts c.1 then [(c, last)] else []) =
      met.flatMap fun c => [(c, last)] := (flatMap_filter _ _ _).symm
  have hends : (met.flatMap (fun c => [(c, last)]) ++ met.map fun c => (last, c)).Perm
      (met.flatMap fun c => [(last, c), (c, last)]) :=
    List.perm_append_comm.trans (List.map_append_flatMap_perm met _ _)
  have hparts := (List.flatMap_append_perm bindings.zipIdx
    (fun c => (rivals bindings c).map fun d => (c, d))
    (fun c => if b.conflicts c.1 then [(c, last)] else [])).symm
  rw [hmet] at hparts
  rw [hsplit]
  refine (hparts.append_right _).trans ?_
  rw [List.append_assoc]
  exact hends.append_left _

/-- Of the two pairs that a conflict with an earlier binding adds, one has the earlier binding
first. -/
theorem countP_ends_eq_length {n : Nat} (b : ScopedBinding) {met : List (ScopedBinding × Nat)}
    (earlier : ∀ c ∈ met, c.2 < n) :
    (met.flatMap fun c => [((b, n), c), (c, (b, n))]).countP (fun p => p.1.2 < p.2.2) =
      met.length := by
  induction met with
  | nil => rfl
  | cons c rest ih =>
    obtain ⟨hc, hrest⟩ := List.forall_mem_cons.1 earlier
    have hn : ¬ n < c.2 := by omega
    rw [List.flatMap_cons, List.countP_append, ih hrest]
    simp only [List.countP_cons, List.countP_nil, hc, hn, decide_true, decide_false,
      List.length_cons]
    simp only [Bool.false_eq_true, if_true, if_false]
    omega

/-- There are two conflict pairs for every two bindings in conflict. -/
theorem length_conflictPairs (bindings : List ScopedBinding) :
    (conflictPairs bindings).length =
      2 * (conflictPairs bindings).countP fun p => p.1.2 < p.2.2 := by
  induction bindings using List.reverseRecOn with
  | nil => rfl
  | append_singleton bindings b ih =>
    have hperm := conflictPairs_append bindings b
    have hearlier : ∀ c ∈ bindings.zipIdx.filter (fun c => b.conflicts c.1),
        c.2 < bindings.length := by
      intro c hc
      exact List.snd_lt_of_mem_zipIdx (List.mem_filter.1 hc).1
    have hcount := countP_ends_eq_length b hearlier
    rw [hperm.length_eq, hperm.countP_eq, List.length_append, List.countP_append, hcount, ih,
      List.length_flatMap]
    simp only [List.length_cons, List.length_nil, List.map_const', List.sum_replicate_nat]
    omega

/-- What the first binding of a pair contributes because of the second one. -/
def pairEntry (p : (ScopedBinding × Nat) × (ScopedBinding × Nat)) : Entry :=
  p.1.1.binding.conflictEntry p.2.1.binding

/-- The pass over two lists is the pass over the first and then, knowing it, over the second. -/
theorem overlapEntries_append (earlier first second : List ScopedBinding) :
    overlapEntries earlier (first ++ second) =
      overlapEntries earlier first ++ overlapEntries (earlier ++ first) second := by
  induction first generalizing earlier with
  | nil => simp [overlapEntries]
  | cons b rest ih => simp [overlapEntries, ih]

/-- One step of the pass contributes what the pairs of the new binding do. -/
theorem conflictEntries_eq_map (bindings : List ScopedBinding) (b : ScopedBinding) :
    conflictEntries bindings b =
      ((bindings.zipIdx.filter fun c => b.conflicts c.1).flatMap fun c =>
        [((b, bindings.length), c), (c, (b, bindings.length))]).map pairEntry := by
  have hpos : bindings.filter b.conflicts =
      (bindings.zipIdx.filter fun c => b.conflicts c.1).map Prod.fst := by
    conv_lhs => rw [← List.zipIdx_map_fst 0 bindings]
    rw [List.filter_map]
    rfl
  rw [conflictEntries, hpos, List.flatMap_map, List.map_flatMap]
  rfl

/-- The whole pass contributes what every binding does because of every other one in conflict with
it, in some order. -/
theorem overlapEntries_perm (bindings : List ScopedBinding) :
    (overlapEntries [] bindings).Perm ((conflictPairs bindings).map pairEntry) := by
  induction bindings using List.reverseRecOn with
  | nil => exact List.Perm.nil
  | append_singleton bindings b ih =>
    have hlast : overlapEntries bindings [b] = conflictEntries bindings b := by
      simp [overlapEntries]
    rw [overlapEntries_append, List.nil_append, hlast, conflictEntries_eq_map]
    refine (ih.append_right _).trans ?_
    rw [← List.map_append]
    exact ((conflictPairs_append bindings b).map pairEntry).symm

/-- An end of a conflict has one finding. -/
@[simp] theorem findings_pairEntry (p : (ScopedBinding × Nat) × (ScopedBinding × Nat)) :
    (pairEntry p).findings = [Check.gatewayMultiMatch.at p.1.1.binding.path] := by
  rw [pairEntry, HostBinding.conflictEntry, Entry.findings_addReference]
  rfl

/-- An end of a conflict belongs to its gateway. -/
@[simp] theorem key_pairEntry (p : (ScopedBinding × Nat) × (ScopedBinding × Nat)) :
    (pairEntry p).key = p.1.1.binding.owner := by
  rw [pairEntry, HostBinding.conflictEntry, Entry.key_addReference]
  rfl

/-- An end of a conflict refers to the gateway of the other end, unless it is its own. -/
@[simp] theorem mem_references_pairEntry {p : (ScopedBinding × Nat) × (ScopedBinding × Nat)}
    {x : ObjectKey} :
    x ∈ (pairEntry p).references ↔ x = p.2.1.binding.owner ∧ x ≠ p.1.1.binding.owner := by
  rw [pairEntry, HostBinding.conflictEntry, Entry.mem_addReference]
  simp only [Entry.not_mem_references_ofKey_addFinding, or_false]
  constructor
  · intro h
    obtain ⟨rfl, hne⟩ := h
    exact ⟨rfl, hne⟩
  · intro h
    obtain ⟨rfl, hne⟩ := h
    exact ⟨rfl, hne⟩

/-- The bindings of several gateways, in the order in which the check meets them. -/
abbrev allBindings (gateways : List MeshObject) : List ScopedBinding :=
  gateways.flatMap scopedBindings

/-- Bindings are owned by their gateway. -/
theorem owner_of_mem_scopedBindings {gateway : MeshObject} {b : ScopedBinding}
    (h : b ∈ scopedBindings gateway) : b.binding.owner = .ofObject gateway := by
  obtain ⟨_, hexposes⟩ := mem_hostBindings.1 (mem_scopedBindings.1 h).1
  generalize b.binding = binding at hexposes
  cases hexposes
  rfl

/-- The findings of a gateway are one for each conflict pair that starts with a binding of its
own, in some order. -/
theorem findings_gatewayGraph_perm (gateways : List MeshObject) (key : ObjectKey) :
    ((gatewayGraph gateways).findings key).Perm
      (((conflictPairs (allBindings gateways)).filter fun p => p.1.1.binding.owner = key).map
        fun p => Check.gatewayMultiMatch.at p.1.1.binding.path) := by
  have hperm := (overlapEntries_perm (allBindings gateways)).filter fun entry => entry.key = key
  have hkey : ((fun entry : Entry => decide (entry.key = key)) ∘ pairEntry) =
      fun p => decide (p.1.1.binding.owner = key) := by
    funext p
    simp
  rw [gatewayGraph, Graph.findings_ofEntries]
  refine (hperm.flatMap_right Entry.findings).trans ?_
  rw [List.filter_map, hkey, List.flatMap_map]
  simp only [findings_pairEntry]
  rw [List.map_eq_flatMap]

/-- A gateway refers to the other gateways that own the second binding of a pair whose first
binding is its own. -/
theorem mem_references_gatewayGraph {gateways : List MeshObject} {key x : ObjectKey} :
    x ∈ (gatewayGraph gateways).references key ↔
      x ≠ key ∧ ∃ p ∈ conflictPairs (allBindings gateways),
        p.1.1.binding.owner = key ∧ p.2.1.binding.owner = x := by
  rw [gatewayGraph, Graph.mem_references_ofEntries]
  simp only [(overlapEntries_perm (allBindings gateways)).mem_iff, List.mem_map]
  constructor
  · intro h
    obtain ⟨_, ⟨p, hp, rfl⟩, hk, -, hx⟩ := h
    rw [key_pairEntry] at hk
    obtain ⟨hx, hne⟩ := mem_references_pairEntry.1 hx
    exact ⟨hk ▸ hne, p, hp, hk, hx.symm⟩
  · intro h
    obtain ⟨hne, p, hp, hk, hx⟩ := h
    exact ⟨pairEntry p, ⟨p, hp, rfl⟩, by simp [hk], by simp, by simp [hk, hx, hne]⟩

/-- The gateways with an entry are those that own a binding in conflict with another one. -/
theorem contains_gatewayGraph {gateways : List MeshObject} {key : ObjectKey} :
    (gatewayGraph gateways).contains key = true ↔
      ∃ p ∈ conflictPairs (allBindings gateways), p.1.1.binding.owner = key := by
  rw [gatewayGraph, Graph.contains_ofEntries]
  simp only [(overlapEntries_perm (allBindings gateways)).mem_iff, List.mem_map]
  constructor
  · intro h
    obtain ⟨_, ⟨p, hp, rfl⟩, hk, -⟩ := h
    exact ⟨p, hp, by simpa using hk⟩
  · intro h
    obtain ⟨p, hp, hk⟩ := h
    exact ⟨pairEntry p, ⟨p, hp, rfl⟩, by simp [hk], by simp⟩

/-- There are as many findings as conflict pairs. -/
theorem findingCount_gatewayGraph (gateways : List MeshObject) :
    (gatewayGraph gateways).findingCount = (conflictPairs (allBindings gateways)).length := by
  have hperm := (overlapEntries_perm (allBindings gateways)).map fun entry => entry.findings.length
  rw [gatewayGraph, Graph.findingCount_ofEntries, hperm.sum_nat, List.map_map]
  simp [Function.comp_def]

/-- The conflict pairs that start with bindings of a kind are counted binding by binding. -/
theorem countP_conflictPairs (bindings : List ScopedBinding) (keep : ScopedBinding → Bool) :
    (conflictPairs bindings).countP (fun p => keep p.1.1) =
      ((bindings.zipIdx.filter fun b => keep b.1).map fun b => (rivals bindings b).length).sum := by
  rw [conflictPairs, List.countP_flatMap]
  generalize bindings.zipIdx = places
  induction places with
  | nil => rfl
  | cons b rest ih =>
    rw [List.map_cons, List.sum_cons, ih]
    cases hb : keep b.1 <;> simp [hb, Function.comp_def, List.countP_map]

/-- The overlap check reports every conflict at both of its ends and nothing else. The findings of a
gateway at a place count the other bindings in conflict with the binding there, and its references
are the other owners of these. -/
theorem gatewayGraph_counts_conflicts (groups : List (List MeshObject)) :
    let bindings := groups.flatten.flatMap scopedBindings
    let graph := gatewayGraph groups.flatten
    (∀ key path,
      ((graph.findings key).countP fun f => f.check = .gatewayMultiMatch && f.path = path) =
        ((bindings.zipIdx.filter fun b =>
          b.1.binding.owner = key && b.1.binding.path = path).map fun b =>
            (rivals bindings b).length).sum) ∧
    (∀ key other, other ∈ graph.references key ↔
      other ≠ key ∧ ∃ b ∈ bindings.zipIdx, b.1.binding.owner = key ∧
        ∃ c ∈ rivals bindings b, c.1.binding.owner = other) ∧
    (∀ key, graph.contains key = true ↔
      ∃ b ∈ bindings.zipIdx, b.1.binding.owner = key ∧ rivals bindings b ≠ []) ∧
    graph.findingCount = 2 * (conflictPairs bindings).countP fun p => p.1.2 < p.2.2 := by
  intro bindings graph
  have hpair : ∀ b c, (b, c) ∈ conflictPairs bindings ↔
      b ∈ bindings.zipIdx ∧ c ∈ rivals bindings b := by
    intro b c
    rw [mem_conflictPairs, rivals, List.mem_filter]
    simp
  refine ⟨fun key path => ?_, fun key other => ?_, fun key => ?_, ?_⟩
  · have hsum := countP_conflictPairs bindings fun b =>
      b.binding.owner = key && b.binding.path = path
    rw [(findings_gatewayGraph_perm groups.flatten key).countP_eq, List.countP_map,
      List.countP_filter, ← hsum]
    refine List.countP_congr fun p _ => ?_
    simp [Check.at, and_comm]
  · rw [mem_references_gatewayGraph]
    refine and_congr_right fun _ => ?_
    constructor
    · intro h
      obtain ⟨⟨b, c⟩, hp, hkey, hother⟩ := h
      obtain ⟨hb, hc⟩ := (hpair b c).1 hp
      exact ⟨b, hb, hkey, c, hc, hother⟩
    · intro h
      obtain ⟨b, hb, hkey, c, hc, hother⟩ := h
      exact ⟨(b, c), (hpair b c).2 ⟨hb, hc⟩, hkey, hother⟩
  · rw [contains_gatewayGraph]
    constructor
    · intro h
      obtain ⟨⟨b, c⟩, hp, hkey⟩ := h
      obtain ⟨hb, hc⟩ := (hpair b c).1 hp
      exact ⟨b, hb, hkey, List.ne_nil_of_mem hc⟩
    · intro h
      obtain ⟨b, hb, hkey, hne⟩ := h
      obtain ⟨c, hc⟩ := List.exists_mem_of_ne_nil _ hne
      exact ⟨(b, c), (hpair b c).2 ⟨hb, hc⟩, hkey⟩
  · rw [findingCount_gatewayGraph, length_conflictPairs]

end MeshAudit

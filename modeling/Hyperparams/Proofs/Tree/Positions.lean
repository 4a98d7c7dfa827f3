import Hyperparams.Proofs.Tree.Densifying
import Hyperparams.Proofs.Tree.Nodes

/-!
# Positions

The slots of a node are its positions followed by its names, and which positions there are depends
on the slots alone. A node has no gap when its positions are the first numbers from zero on.
-/

namespace Hyperparams

section Positions

variable {α : Type}

theorem positionalEntries_positional (index : Nat) (a : α) (slots : List (Slot × α)) :
    positionalEntries ((.positional index, a) :: slots) = (index, a) :: positionalEntries slots :=
  rfl

theorem positionalEntries_named (name : String) (a : α) (slots : List (Slot × α)) :
    positionalEntries ((.named name, a) :: slots) = positionalEntries slots := rfl

theorem namedEntries_positional (index : Nat) (a : α) (slots : List (Slot × α)) :
    namedEntries ((.positional index, a) :: slots) = namedEntries slots := rfl

theorem namedEntries_named (name : String) (a : α) (slots : List (Slot × α)) :
    namedEntries ((.named name, a) :: slots) = (name, a) :: namedEntries slots := rfl

/-- Which positions there are depends on the slots alone. -/
theorem map_fst_positionalEntries (slots : List (Slot × α)) :
    (positionalEntries slots).map Prod.fst = (slots.map Prod.fst).filterMap Slot.index? := by
  induction slots with
  | nil => rfl
  | cons entry rest ih =>
      obtain ⟨slot, a⟩ := entry
      cases slot with
      | positional index =>
          have hindex : (Slot.positional index).index? = some index := rfl
          rw [positionalEntries_positional, List.map_cons, List.map_cons,
            List.filterMap_cons_some hindex, ih]
      | named name =>
          rw [positionalEntries_named, List.map_cons, List.filterMap_cons_none rfl, ih]

def atPositions (entries : List (Nat × α)) : List (Slot × α) :=
  entries.map fun entry => (.positional entry.1, entry.2)

def atNames (entries : List (String × α)) : List (Slot × α) :=
  entries.map fun entry => (.named entry.1, entry.2)

/-- Positions in front of names can be taken apart again. -/
theorem positionalEntries_append (entries : List (Nat × α)) (fields : List (String × α)) :
    positionalEntries (atPositions entries ++ atNames fields) = entries := by
  have hnone : positionalEntries (atNames fields) = [] :=
    List.filterMap_eq_nil_iff.mpr (List.forall_mem_map.mpr fun _ _ => rfl)
  have hall : positionalEntries (atPositions entries) = entries := by
    rw [positionalEntries, atPositions, List.filterMap_map]
    exact List.filterMap_some
  rw [positionalEntries, List.filterMap_append, ← positionalEntries, ← positionalEntries, hnone, hall,
    List.append_nil]

theorem namedEntries_atNames (fields : List (String × α)) :
    namedEntries (atNames fields) = fields := by
  rw [namedEntries, atNames, List.filterMap_map]
  exact List.filterMap_some

/-- In slots that ascend, the positions come first. -/
theorem atPositions_append_atNames {slots : List (Slot × α)} (h : Sorted.Ascending slots) :
    atPositions (positionalEntries slots) ++ atNames (namedEntries slots) = slots := by
  induction slots with
  | nil => rfl
  | cons entry rest ih =>
      obtain ⟨slot, a⟩ := entry
      obtain ⟨hfirst, hrest⟩ := List.pairwise_cons.mp h
      cases slot with
      | positional index =>
          rw [positionalEntries_positional, namedEntries_positional]
          exact congrArg _ (ih hrest)
      | named name =>
          have hnone : positionalEntries rest = [] := by
            refine List.filterMap_eq_nil_iff.mpr fun (slot, b) hmem => ?_
            cases slot with
            | positional index =>
                exact absurd (hfirst _ hmem) (Slot.not_named_lt_positional name index)
            | named other => rfl
          have hnames : atNames (namedEntries rest) = rest := by
            simpa [hnone, atPositions] using ih hrest
          rw [positionalEntries_named, namedEntries_named, hnone]
          exact congrArg ((Slot.named name, a) :: ·) hnames

theorem ascending_namedEntries {slots : List (Slot × α)} (h : Sorted.Ascending slots) :
    Sorted.Ascending (namedEntries slots) := by
  have hsplit : Sorted.Ascending (atPositions (positionalEntries slots) ++
      atNames (namedEntries slots)) := by rwa [atPositions_append_atNames h]
  have hnames : Sorted.Ascending (atNames (namedEntries slots)) :=
    (List.pairwise_append.mp hsplit).2.1
  exact (List.pairwise_map.mp hnames).imp Slot.named_lt_named.mp

end Positions

namespace Node

def positions (n : Node) : List Nat :=
  (positionalEntries n.slots).map Prod.fst

/-- The positions of a node are the first numbers from zero on. -/
def Dense (n : Node) : Prop :=
  n.positions = List.range n.positions.length

/-- The positional items of a node make a row if its positions are dense. -/
theorem exists_dense_iff {n : Node} : (∃ items, n.dense = .ok items) ↔ n.Dense := by
  rw [dense, exists_densify_iff, Dense, positions, List.length_map]

theorem positions_pairwise {n : Node} (h : Sorted.Ascending n.slots) :
    n.positions.Pairwise (· < ·) := by
  rw [positions, map_fst_positionalEntries, List.pairwise_filterMap, List.pairwise_map]
  refine h.imp fun {a b} hlt i hi j hj => ?_
  cases ha : a.1 with
  | positional _ =>
      cases hb : b.1 with
      | positional _ =>
          rw [ha, hb] at hlt
          rw [ha] at hi
          rw [hb] at hj
          cases hi
          cases hj
          exact Slot.positional_lt_positional.mp hlt
      | named _ =>
          rw [hb] at hj
          cases hj
  | named _ =>
      rw [ha] at hi
      cases hi

/-- A node that has each of the first numbers as a position once has no gap. -/
theorem dense_of_perm {n : Node} (h : Sorted.Ascending n.slots) {count : Nat}
    (hperm : n.positions.Perm (List.range count)) : n.Dense := by
  have heq : n.positions = List.range count :=
    hperm.eq_of_pairwise (fun i j _ _ hij hji => absurd hij (Nat.lt_asymm hji))
      (positions_pairwise h) List.pairwise_lt_range
  rw [Dense, heq, List.length_range]

end Node

end Hyperparams

import Mathlib.Data.Finset.Range
import Mathlib.Data.List.Sort
import Mathlib.Order.Bounds.Basic
import Hyperparams.Proofs.Outcomes
import Hyperparams.Proofs.Tables
import Hyperparams.Tree.Node

/-!
# Densifying

A map from positions becomes a row of items when its positions are the first numbers from zero on.
The entries are read in order until a position is not the one that is expected. As positions ascend,
nothing that comes later can be the expected position, so it is the least one that is missing.
-/

namespace Hyperparams

variable {α : Type} {entries : List (Nat × α)} {items : List α}

section Reading

variable {expected : Nat}

/-- Positions run on from the expected one if the items make a row. -/
theorem densifyFrom_eq_ok_iff :
    densifyFrom expected entries = .ok items ↔
      entries.map Prod.fst = List.range' expected entries.length ∧ items = entries.map Prod.snd := by
  induction entries generalizing expected items with
  | nil => simp [densifyFrom, eq_comm]
  | cons entry rest ih =>
      obtain ⟨index, item⟩ := entry
      simp only [densifyFrom, List.map_cons, List.length_cons, List.range'_succ, List.cons.injEq]
      split
      next heq =>
        rw [Outcome.map_eq_ok_iff]
        constructor
        · rintro ⟨others, hothers, rfl⟩
          obtain ⟨hindices, rfl⟩ := ih.mp hothers
          exact ⟨⟨heq, hindices⟩, rfl⟩
        · rintro ⟨⟨-, hindices⟩, rfl⟩
          exact ⟨rest.map Prod.snd, ih.mpr ⟨hindices, rfl⟩, rfl⟩
      next hne =>
        refine ⟨fun h => ?_, fun h => absurd h.1.1 hne⟩
        cases h

/-- The row has each item at its own position. -/
theorem densifyFrom_getElem? (h : densifyFrom expected entries = .ok items) (index : Nat) :
    items[index]? = Sorted.find? (expected + index) entries := by
  induction entries generalizing expected items index with
  | nil =>
      cases h
      rfl
  | cons entry rest ih =>
      obtain ⟨position, item⟩ := entry
      unfold densifyFrom at h
      split at h
      next heq =>
        subst heq
        obtain ⟨others, hothers, rfl⟩ := Outcome.map_eq_ok_iff.mp h
        cases index with
        | zero => simp [Sorted.find?]
        | succ index =>
            have hne : position + (index + 1) ≠ position := by omega
            rw [List.getElem?_cons_succ, ih hothers, Sorted.find?, if_neg hne, Nat.add_right_comm,
              Nat.add_assoc]
      next => cases h

/-- Reading stops at the first number, from the expected one on, that is no position. -/
theorem densifyFrom_eq_error {missing : Nat} (h : densifyFrom expected entries = .error missing)
    (hascending : (entries.map Prod.fst).Pairwise (· < ·))
    (hfrom : ∀ i ∈ entries.map Prod.fst, expected ≤ i) :
    expected ≤ missing ∧ (∀ i, expected ≤ i → i < missing → i ∈ entries.map Prod.fst) ∧
      missing ∉ entries.map Prod.fst ∧ ∃ i ∈ entries.map Prod.fst, missing < i := by
  -- what is left to read ascends, and nothing in it comes before the expected position
  induction entries generalizing expected with
  | nil => cases h
  | cons entry rest ih =>
      obtain ⟨index, item⟩ := entry
      simp only [List.map_cons, List.pairwise_cons, List.forall_mem_cons] at hascending hfrom
      obtain ⟨hfirst, hrest⟩ := hascending
      simp only [List.map_cons, List.mem_cons, exists_eq_or_imp, not_or]
      unfold densifyFrom at h
      split at h
      next heq =>
        cases hothers : densifyFrom (expected + 1) rest with
        | ok items =>
            rw [hothers] at h
            cases h
        | error first =>
            rw [hothers] at h
            cases h
            obtain ⟨hle, hbelow, habsent, hgreater⟩ := ih hothers hrest (heq ▸ hfirst)
            refine ⟨by omega, fun i hi hless => ?_, ⟨by omega, habsent⟩, Or.inr hgreater⟩
            rcases Nat.eq_or_lt_of_le hi with hfirst | hlater
            · exact Or.inl (by omega)
            · exact Or.inr (hbelow i hlater hless)
      next hne =>
        cases h
        have hless : missing < index := by omega
        refine ⟨le_rfl, fun i hi hi' => by omega, ⟨by omega, fun hmem => ?_⟩, Or.inl hless⟩
        have hafter := hfirst missing hmem
        omega

end Reading

/-- Positions have no gap if they are the first numbers. -/
theorem densify_eq_ok_iff :
    densify entries = .ok items ↔
      entries.map Prod.fst = List.range entries.length ∧ items = entries.map Prod.snd := by
  rw [List.range_eq_range', ← densifyFrom_eq_ok_iff, densify, Outcome.mapError_eq_ok_iff]

theorem exists_densify_iff :
    (∃ items, densify entries = .ok items) ↔
      entries.map Prod.fst = List.range entries.length := by
  simp only [densify_eq_ok_iff, exists_and_left, exists_eq, and_true]

/-- Each item stands in the row at its position. -/
theorem densify_getElem? (h : densify entries = .ok items) (index : Nat) :
    items[index]? = Sorted.find? index entries := by
  have hfrom : densifyFrom 0 entries = .ok items := Outcome.mapError_eq_ok_iff.mp h
  rw [densifyFrom_getElem? hfrom, Nat.zero_add]

/-- The position that is reported is the first number that is no position, and a greater one is. -/
theorem densify_eq_error {gap : PositionalGap} (h : densify entries = .error gap)
    (hascending : (entries.map Prod.fst).Pairwise (· < ·)) :
    gap.present = entries.map Prod.fst ∧ IsLeast {i | i ∉ entries.map Prod.fst} gap.missing ∧
      ∃ i ∈ entries.map Prod.fst, gap.missing < i := by
  obtain ⟨missing, hfrom, rfl⟩ := Outcome.mapError_eq_error_iff.mp h
  obtain ⟨-, hbelow, habsent, hgreater⟩ :=
    densifyFrom_eq_error hfrom hascending fun i _ => Nat.zero_le i
  refine ⟨rfl, ⟨habsent, fun i hi => ?_⟩, hgreater⟩
  by_contra hless
  exact hi (hbelow i (Nat.zero_le i) (Nat.lt_of_not_le hless))

/-- Ascending positions are the first numbers in order when they are the first numbers as a set. -/
theorem map_fst_eq_range_iff (h : Sorted.Ascending entries) :
    entries.map Prod.fst = List.range entries.length ↔
      (entries.map Prod.fst).toFinset = Finset.range entries.length := by
  constructor
  · intro hpositions
    ext i
    rw [hpositions, List.mem_toFinset, List.mem_range, Finset.mem_range]
  · intro hset
    refine (Sorted.ascending_iff_keys.mp h).eq_of_mem_iff List.pairwise_lt_range fun i => ?_
    rw [← List.mem_toFinset, hset, Finset.mem_range, List.mem_range]

/-- A map becomes a row exactly when its positions are the first numbers, as many as it has items,
and each item then stands at its position. Otherwise the gap is the least number that is no position
of the map, reported with all positions in order, of which some come after the gap. -/
theorem densify_row_or_gap (h : Sorted.Ascending entries) :
    let positions := (entries.map Prod.fst).toFinset
    ((∃ items, densify entries = .ok items) ↔ positions = Finset.range entries.length) ∧
      (∀ items, densify entries = .ok items →
        items.length = entries.length ∧ ∀ i, items[i]? = Sorted.find? i entries) ∧
      (positions ≠ Finset.range entries.length → ∃ gap, densify entries = .error gap ∧
        IsLeast {i | i ∉ positions} gap.missing ∧
        gap.present.Pairwise (· < ·) ∧ gap.present.toFinset = positions ∧
        ∃ i ∈ gap.present, gap.missing < i) := by
  intro positions
  have hascending := Sorted.ascending_iff_keys.mp h
  have hrow : (∃ items, densify entries = .ok items) ↔ positions = Finset.range entries.length :=
    exists_densify_iff.trans (map_fst_eq_range_iff h)
  refine ⟨hrow, fun items hitems => ⟨?_, densify_getElem? hitems⟩, fun hne => ?_⟩
  · rw [(densify_eq_ok_iff.mp hitems).2, List.length_map]
  · cases hdense : densify entries with
    | ok items => exact absurd (hrow.mp ⟨items, hdense⟩) hne
    | error gap =>
        obtain ⟨hpresent, hleast, hafter⟩ := densify_eq_error hdense hascending
        refine ⟨gap, rfl, ?_, hpresent ▸ hascending, congrArg _ hpresent, hpresent ▸ hafter⟩
        simpa only [positions, List.mem_toFinset] using hleast

def scatteredItems : List (Nat × String) :=
  [(0, "first"), (2, "third"), (5, "sixth")]

/-- Two gaps, of which the first is reported with all positions that are there. -/
theorem densify_row_or_gap_scattered :
    Sorted.Ascending scatteredItems ∧ densify scatteredItems = .error ⟨1, [0, 2, 5]⟩ ∧
      IsLeast {i | i ∉ ({0, 2, 5} : Finset Nat)} 1 := by
  have hascending : Sorted.Ascending scatteredItems := by
    unfold Sorted.Ascending
    decide
  have hdense : densify scatteredItems = .error ⟨1, [0, 2, 5]⟩ := rfl
  obtain ⟨gap, hgap, hleast, -⟩ := (densify_row_or_gap hascending).2.2 (by decide)
  cases hdense.symm.trans hgap
  exact ⟨hascending, hdense, hleast⟩

example : densify (Sorted.ofList [(1, "second"), (0, "first")]) = .ok ["first", "second"] := rfl

end Hyperparams

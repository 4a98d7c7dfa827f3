import Hyperparams.Lowering
import Hyperparams.Proofs.Partition
import Hyperparams.Proofs.Tokens

/-!
# Lowering in stages

Lowering accepts tokens exactly when each of its stages does: the tokens are in pairs, no plain key
is the root of an object unless that is allowed, and a forest can be built from the compound keys.
-/

namespace Hyperparams

variable {prefs : Preferences} {elapsed : String} {tokens : List String} {l : Lowered}

def Lowered.ofStages (t : Tokenized) (forest : Forest) : Lowered where
  plain := (Partition.ofArguments t.args).plain
  forest := forest
  warnings := t.warnings
  metrics := t.metrics
  compoundCount := (Partition.ofArguments t.args).compound.size

/-- Lowering succeeds if the tokens are taken, no conflict is refused and the forest is built. -/
theorem lower_result_eq_ok_iff :
    (lower prefs elapsed tokens).result = .ok l ↔ ∃ t forest,
      (tokenize prefs.tokenizing tokens).result = .ok t ∧
        (prefs.building.rejectConflictingKeys = true →
          (Partition.ofArguments t.args).conflict? = none) ∧
        (Forest.build prefs.building (Partition.ofArguments t.args).compound).result = .ok forest ∧
          Lowered.ofStages t forest = l := by
  cases hreject : prefs.building.rejectConflictingKeys with
  | true =>
      simp [lower, hreject, Outcome.bind_eq_ok_iff, Outcome.mapError_eq_ok_iff,
        Partition.checked_result_eq_ok_iff, Lowered.ofStages, and_assoc]
  | false =>
      simp [lower, hreject, Outcome.bind_eq_ok_iff, Outcome.mapError_eq_ok_iff, Lowered.ofStages]

/-- Pairs are lowered in stages that only see the entries they stand for. -/
theorem exists_lower_of_entries {pairs : List (String × String)} {entries : List (String × Value)}
    {forest : Forest} (htokens : Tokenizable pairs)
    (hentries : (Arguments.ofList (inferred pairs)).toList = entries)
    (hfree : ∀ key ∈ (entries.filter fun entry => !isCompoundKey entry.1).map Prod.fst,
      key ∉ ((entries.filter fun entry => isCompoundKey entry.1).map Prod.fst).map keyRoot)
    (hbuild : ∀ c : Arguments, c.toList = entries.filter (fun entry => isCompoundKey entry.1) →
      (Forest.build prefs.building c).result = .ok forest) :
    ∃ l, (lower prefs elapsed (flagTokens pairs)).result = .ok l ∧
      l.plain.toList = entries.filter (fun entry => !isCompoundKey entry.1) ∧
      l.forest = forest := by
  obtain ⟨t, ht, hargs⟩ := tokenize_flagTokens_ok_iff.mpr ⟨htokens, rfl⟩
  have hplain := Partition.toList_plain t.args
  have hcompound := Partition.toList_compound t.args
  rw [hargs, hentries] at hplain hcompound
  have hconflict : (Partition.ofArguments t.args).conflict? = none := by
    rw [Partition.conflict?_eq_none_iff, Partition.roots, Arguments.keys, Arguments.keys, hargs,
      hplain, hcompound]
    exact hfree
  refine ⟨Lowered.ofStages t forest, lower_result_eq_ok_iff.mpr ⟨t, forest, ht, fun _ => hconflict,
    hbuild _ (hargs ▸ hcompound), rfl⟩, ?_, rfl⟩
  unfold Lowered.ofStages
  rw [hargs]
  exact hplain

end Hyperparams

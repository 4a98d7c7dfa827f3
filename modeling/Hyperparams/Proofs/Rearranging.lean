import Hyperparams.Kwargs
import Hyperparams.Proofs.Object.Direct
import Hyperparams.Proofs.Partition
import Hyperparams.Proofs.Tokens
import Hyperparams.Proofs.Tree.Determined

/-!
# The order of the command line

Errors are reported for the first pair that is wrong, and arguments are kept in the order in which
they came. Still, whether a command line is accepted and what it gives only depends on the order of
the values of each key.
-/

namespace Hyperparams

open Outcome

section Lowering

variable {prefs : Preferences} {elapsed elapsed' : String} {pairs pairs' : List (String × String)}

/-- The plain values are the same by key, and the forests have the same roots in any order. -/
structure SameLowered (l l' : Lowered) : Prop where
  plain : ∀ key, l.plain.get? key = l'.plain.get? key
  forest : Forest.SameRoots l.forest l'.forest

/-- Pairs in another order are both refused or give arguments with the same bindings. -/
theorem agree_tokenize {prefs : Preferences.Tokenizing} (h : Rearranged pairs pairs') :
    Agree (fun t t' : Tokenized => t.args.toList.Perm t'.args.toList)
      (tokenize prefs (flagTokens pairs)).result (tokenize prefs (flagTokens pairs')).result := by
  have hok : ∀ l : List (String × String),
      (∃ t, (tokenize prefs (flagTokens l)).result = .ok t) ↔ Tokenizable l := by
    intro l
    constructor
    · rintro ⟨t, ht⟩
      exact (tokenize_flagTokens_ok_iff.mp ⟨t, ht, rfl⟩).1
    · intro hl
      obtain ⟨t, ht, -⟩ := tokenize_flagTokens_ok_iff.mpr ⟨hl, rfl⟩
      exact ⟨t, ht⟩
  have hwell : Tokenizable pairs ↔ Tokenizable pairs' :=
    ⟨Tokenizable.of_perm h.perm, Tokenizable.of_perm h.perm.symm⟩
  refine Agree.of_ok_iff ((hok pairs).trans (hwell.trans (hok pairs').symm)) fun t t' ht ht' => ?_
  rw [(tokenize_flagTokens_ok_iff.mp ⟨t, ht, rfl⟩).2,
    (tokenize_flagTokens_ok_iff.mp ⟨t', ht', rfl⟩).2]
  exact Arguments.toList_perm_iff.mpr h.get?_eq

/-- Pairs in another order are both refused or lowered to the same. -/
theorem agree_lower (h : Rearranged pairs pairs') :
    Agree SameLowered (lower prefs elapsed (flagTokens pairs)).result
      (lower prefs elapsed' (flagTokens pairs')).result := by
  unfold lower
  -- the stages agree one after the other; the first of them only reports that lowering begins
  refine Agree.tracedBind (R := fun _ _ => True) trivial fun _ _ _ => ?_
  refine Agree.tracedBind ((agree_tokenize h).mapError _ _) fun t t' hargs => ?_
  dsimp only
  split
  · refine Agree.tracedBind ((Partition.agree_checked hargs).mapError _ _) fun p p' hsame => ?_
    refine Agree.tracedBind ((Forest.agree_build hsame.compoundKeys hsame.compound).mapError _ _)
      fun f f' hroots => ?_
    exact ⟨Arguments.toList_perm_iff.mp hsame.plain, hroots⟩
  · refine Agree.tracedBind (R := Partition.Same) (Partition.same_ofArguments hargs)
      fun p p' hsame => ?_
    refine Agree.tracedBind ((Forest.agree_build hsame.compoundKeys hsame.compound).mapError _ _)
      fun f f' hroots => ?_
    exact ⟨Arguments.toList_perm_iff.mp hsame.plain, hroots⟩

end Lowering

section Parsing

variable {ω : Type} {registry : Registry (Constructor ω)} {prefs : Preferences}
  {elapsed elapsed' : String} {pairs pairs' : List (String × String)}

/-- The same roots in another order fail to be built or give the same instances by name. -/
theorem agree_materialize {prefs : Preferences.Constructing} {f f' : Forest}
    (h : Forest.SameRoots f f') :
    Agree (fun roots roots' => roots.Perm roots' ∧ (roots.map Prod.fst).Nodup)
      (f.materialize registry prefs).result (f'.materialize registry prefs).result := by
  rw [materialize_forest_result, materialize_forest_result]
  refine (agree_mapM_of_perm h.perm).and_left fun roots hroots => ?_
  rw [names_of_mapM hroots]
  exact h.distinct

/-- Keyword arguments do not depend on the order of keys or of roots. -/
theorem mergeKwargs_congr {plain plain' : Arguments} {roots roots' : List (String × Instance ω)}
    (hplain : plain.toList.Perm plain'.toList) (hroots : roots.Perm roots')
    (hdistinct : (roots.map Prod.fst).Nodup) :
    mergeKwargs plain roots = mergeKwargs plain' roots' := by
  refine Sorted.Table.ofList_congr fun k => ?_
  rw [List.filter_append, List.filter_append]
  congr 1
  · refine Sorted.filter_key_eq_of_perm (hplain.map _) ?_ k
    rw [List.map_map]
    exact plain.keys_nodup
  · refine Sorted.filter_key_eq_of_perm (hroots.map _) ?_ k
    rw [List.map_map]
    exact hdistinct

/-- Pairs in another order are both refused or parsed to the same keyword arguments. -/
theorem agree_parse (h : Rearranged pairs pairs') :
    Agree (fun parsed parsed' : Parsed ω => parsed.kwargs = parsed'.kwargs)
      (parse registry prefs elapsed (flagTokens pairs)).result
      (parse registry prefs elapsed' (flagTokens pairs')).result := by
  unfold parse
  refine Agree.tracedBind ((agree_lower h).mapError _ _) fun l l' hlowered => ?_
  refine Agree.tracedBind ((agree_materialize hlowered.forest).mapError _ _)
    fun roots roots' hroots => ?_
  exact mergeKwargs_congr (Arguments.toList_perm_iff.mpr hlowered.plain) hroots.1 hroots.2

/-- A command line may be rearranged as long as the values of each key keep their order: it is
refused in every order, or gives the same plain values and roots and the same keyword arguments. -/
theorem rearranged_agree (h : Rearranged pairs pairs') (registry : Registry (Constructor ω)) :
    Agree SameLowered (lower prefs elapsed (flagTokens pairs)).result
        (lower prefs elapsed' (flagTokens pairs')).result ∧
      Agree (fun parsed parsed' : Parsed ω => parsed.kwargs = parsed'.kwargs)
        (parse registry prefs elapsed (flagTokens pairs)).result
        (parse registry prefs elapsed' (flagTokens pairs')).result :=
  ⟨agree_lower h, agree_parse h⟩

/-- A key that comes twice, before and after the class of an object. -/
def spreadPairs : List (String × String) :=
  [("lr", "1"), ("net.__class__", "Net"), ("lr", "2")]

def gatheredPairs : List (String × String) :=
  [("net.__class__", "Net"), ("lr", "1"), ("lr", "2")]

/-- A key that comes before and after a class, and the same with the key in one place. -/
theorem rearranged_agree_gathered :
    Rearranged spreadPairs gatheredPairs ∧
      Agree SameLowered (lower {} "0" (flagTokens spreadPairs)).result
        (lower {} "1" (flagTokens gatheredPairs)).result := by
  have hrearranged : Rearranged spreadPairs gatheredPairs := by
    intro key
    by_cases hlr : key = "lr"
    · subst hlr
      rfl
    · by_cases hnet : key = "net.__class__"
      · subst hnet
        rfl
      · simp [spreadPairs, gatheredPairs, Ne.symm hlr, Ne.symm hnet]
  exact ⟨hrearranged,
    (rearranged_agree hrearranged (.new "08:00" : Registry (Constructor Unit))).1⟩

end Parsing

end Hyperparams

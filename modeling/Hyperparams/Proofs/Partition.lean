import Hyperparams.Partition
import Hyperparams.Proofs.Outcomes
import Hyperparams.Proofs.Table

/-!
# The halves of a partition

Each half of a partition keeps its entries in order. Whether there is a conflict only depends on
which keys there are.
-/

namespace Hyperparams

namespace Partition

variable {args args' : Arguments} {p p' : Partition}

/-- The plain half keeps the entries of plain keys in order. -/
theorem toList_plain (args : Arguments) :
    (ofArguments args).plain.toList = args.toList.filter fun entry => !isCompoundKey entry.1 :=
  Arguments.toList_ofList (args.keys_nodup.sublist (List.filter_sublist.map _))

theorem toList_compound (args : Arguments) :
    (ofArguments args).compound.toList = args.toList.filter fun entry => isCompoundKey entry.1 :=
  Arguments.toList_ofList (args.keys_nodup.sublist (List.filter_sublist.map _))

theorem isCompoundKey_of_mem {key : String} (h : key ∈ (ofArguments args).compound.keys) :
    isCompoundKey key = true := by
  unfold Arguments.keys at h
  rw [toList_compound] at h
  obtain ⟨entry, hentry, rfl⟩ := List.mem_map.mp h
  exact (List.mem_filter.mp hentry).2

/-- There is no conflict if no plain key is the name of an object. -/
theorem conflict?_eq_none_iff : p.conflict? = none ↔ ∀ key ∈ p.plain.keys, key ∉ p.roots := by
  unfold conflict?
  rw [List.find?_eq_none]
  simp

theorem check_result_eq_ok_iff : p.check.result = .ok () ↔ p.conflict? = none := by
  unfold check
  cases p.conflict? <;> simp

theorem checked_result_eq_ok_iff :
    (checked args).result = .ok p ↔ (ofArguments args).conflict? = none ∧ p = ofArguments args := by
  rw [← check_result_eq_ok_iff, checked, Log.Traced.result_bind, Outcome.bind_eq_ok_iff]
  constructor
  · rintro ⟨⟨⟩, hcheck, h⟩
    cases h
    exact ⟨hcheck, rfl⟩
  · rintro ⟨hcheck, rfl⟩
    exact ⟨(), hcheck, rfl⟩

/-- Two partitions with the same bindings in each half, the compound keys in the second. -/
structure Same (p p' : Partition) : Prop where
  plain : p.plain.toList.Perm p'.plain.toList
  compound : p.compound.toList.Perm p'.compound.toList
  compoundKeys : ∀ key ∈ p.compound.keys, isCompoundKey key = true

/-- The order of arguments does not matter to what the halves bind. -/
theorem same_ofArguments (h : args.toList.Perm args'.toList) :
    Same (ofArguments args) (ofArguments args') where
  plain := by
    rw [toList_plain, toList_plain]
    exact h.filter _
  compound := by
    rw [toList_compound, toList_compound]
    exact h.filter _
  compoundKeys _ := isCompoundKey_of_mem

theorem Same.conflict?_eq_none_iff (h : Same p p') : p.conflict? = none ↔ p'.conflict? = none := by
  rw [Partition.conflict?_eq_none_iff, Partition.conflict?_eq_none_iff]
  have hplain := h.plain.map Prod.fst
  have hroots := (h.compound.map Prod.fst).map keyRoot
  constructor
  · intro hfree key hkey hroot
    exact hfree key (hplain.mem_iff.mpr hkey) (hroots.mem_iff.mpr hroot)
  · intro hfree key hkey hroot
    exact hfree key (hplain.mem_iff.mp hkey) (hroots.mem_iff.mp hroot)

/-- Arguments with the same bindings are both refused or have the same halves. -/
theorem agree_checked (h : args.toList.Perm args'.toList) :
    Outcome.Agree Same (checked args).result (checked args').result := by
  have hsame := same_ofArguments h
  refine Outcome.Agree.of_ok_iff ?_ fun p p' hp hp' => ?_
  · simp only [checked_result_eq_ok_iff, exists_and_left, exists_eq, and_true]
    exact hsame.conflict?_eq_none_iff
  · obtain ⟨-, rfl⟩ := checked_result_eq_ok_iff.mp hp
    obtain ⟨-, rfl⟩ := checked_result_eq_ok_iff.mp hp'
    exact hsame

end Partition

end Hyperparams

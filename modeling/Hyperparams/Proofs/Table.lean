import Mathlib.Data.List.Nodup
import Mathlib.Data.Set.Operations
import Hyperparams.Arguments
import Hyperparams.Proofs.Tables

/-!
# Tables of arguments as lists

Read as a list, a table has every key once, and looking up a key finds its entry. Storing under a
present key replaces its value in place, storing under a new key adds an entry at the end. What a
table binds, its order aside, is the last value that came for each key.
-/

namespace Hyperparams

namespace Arguments

variable {args : Arguments} {k : String} {v : Value}

theorem getElem?_keys (args : Arguments) (i : Nat) :
    args.keys[i]? = args.entries[i]?.map Prod.fst := by
  simp [keys, toList]

/-- The index is what makes keys distinct. -/
theorem keys_nodup (args : Arguments) : args.keys.Nodup := by
  rw [List.nodup_iff_getElem?_ne_getElem?]
  intro i j hij hj heq
  have hkey : args.keys[j]? = some args.keys[j] := List.getElem?_eq_getElem hj
  have hi := heq.trans hkey
  rw [getElem?_keys, ← args.indexed] at hi hkey
  cases hi.symm.trans hkey
  exact Nat.lt_irrefl i hij

/-- Looking up a key gives the value of its entry. -/
theorem get?_eq_some_iff : args.get? k = some v ↔ (k, v) ∈ args.toList := by
  unfold get? toList
  rw [Array.mem_toList_iff, Array.mem_iff_getElem?, Option.bind_eq_some_iff]
  constructor
  · rintro ⟨i, hindex, hvalue⟩
    obtain ⟨entry, hentry, hkey⟩ := Option.map_eq_some_iff.mp ((args.indexed k i).mp hindex)
    obtain ⟨entry', hentry', hv⟩ := Option.map_eq_some_iff.mp hvalue
    cases hentry.symm.trans hentry'
    exact ⟨i, by rw [hentry, ← hkey, ← hv]⟩
  · rintro ⟨i, hentry⟩
    exact ⟨i, (args.indexed k i).mpr (by rw [hentry]; rfl), by rw [hentry]; rfl⟩

theorem get?_eq_none_iff : args.get? k = none ↔ k ∉ args.keys := by
  rw [Option.eq_none_iff_forall_ne_some, keys, List.mem_map, not_exists]
  constructor
  · rintro h ⟨key, v⟩ ⟨hmem, rfl⟩
    exact h v (get?_eq_some_iff.mpr hmem)
  · intro h v hv
    exact h (k, v) ⟨get?_eq_some_iff.mp hv, rfl⟩

theorem index_eq_none_iff : args.index[k]? = none ↔ k ∉ args.keys := by
  rw [Option.eq_none_iff_forall_ne_some, List.mem_iff_getElem?]
  simp only [getElem?_keys, ← args.indexed, ne_eq, not_exists]

/-- The index leads to an entry. -/
theorem index_lt_size {i : Nat} (hi : args.index[k]? = some i) : i < args.entries.size := by
  by_contra hout
  have hplace := (args.indexed k i).mp hi
  rw [Array.getElem?_eq_none (Nat.le_of_not_lt hout)] at hplace
  cases hplace

/-- Storing under a new key adds an entry at the end. -/
theorem toList_insert_of_not_mem (h : k ∉ args.keys) :
    (args.insert k v).toList = args.toList ++ [(k, v)] := by
  have hnone := index_eq_none_iff.mpr h
  unfold insert
  split
  next i hi => cases hnone.symm.trans hi
  next => simp [append, toList]

/-- A new key comes last. -/
theorem keys_insert_of_not_mem (h : k ∉ args.keys) :
    (args.insert k v).keys = args.keys ++ [k] := by
  simp [keys, toList_insert_of_not_mem h]

/-- Storing under a present key leaves the keys in place. -/
theorem keys_insert_of_mem (h : k ∈ args.keys) : (args.insert k v).keys = args.keys := by
  unfold insert
  split
  next i hi =>
    have hplace : args.entries[i]?.map Prod.fst = some k := (args.indexed k i).mp hi
    rw [Array.getElem?_eq_getElem (index_lt_size hi), Option.map_some, Option.some.injEq] at hplace
    refine List.ext_getElem? fun j => ?_
    simp only [getElem?_keys, replaceAt, Array.getElem?_setIfInBounds]
    by_cases hij : i = j
    · subst hij
      simp [index_lt_size hi, hplace]
    · rw [if_neg hij]
  next hk => exact absurd h (index_eq_none_iff.mp hk)

theorem contains_eq_true_iff : args.contains k = true ↔ k ∈ args.keys := by
  rw [← not_iff_not, ← index_eq_none_iff]
  simp [contains]

theorem size_eq_length_keys (args : Arguments) : args.size = args.keys.length := by
  simp [size, keys, toList]

/-- Entries with new and distinct keys are stored in their order. -/
theorem toList_foldl_insert (args : Arguments) {entries : List (String × Value)}
    (h : (args.keys ++ entries.map Prod.fst).Nodup) :
    (entries.foldl (fun args entry => args.insert entry.1 entry.2) args).toList =
      args.toList ++ entries := by
  induction entries generalizing args with
  | nil => simp
  | cons entry rest ih =>
      have hnew : entry.1 ∉ args.keys := by
        rw [List.map_cons, List.nodup_middle, List.nodup_cons, List.mem_append, not_or] at h
        exact h.1.1
      rw [List.foldl_cons, ih _, toList_insert_of_not_mem hnew, List.append_assoc,
        List.singleton_append]
      rw [keys_insert_of_not_mem hnew, List.append_assoc]
      exact h

/-- Collecting entries with distinct keys gives the same entries. -/
theorem toList_ofList {entries : List (String × Value)} (h : (entries.map Prod.fst).Nodup) :
    (ofList entries).toList = entries :=
  toList_foldl_insert ∅ h

theorem get?_replaceAt {i : Nat} (hi : args.index[k]? = some i) (k' : String) :
    (args.replaceAt k v i hi).get? k' = if k = k' then some v else args.get? k' := by
  have hplace := (args.indexed k i).mp hi
  simp only [get?, replaceAt]
  split
  next heq =>
    subst heq
    simp [hi, index_lt_size hi]
  next hne =>
    cases hi' : args.index[k']? with
    | none => rfl
    | some j =>
        have hij : i ≠ j := by
          rintro rfl
          rw [args.indexed, hplace] at hi'
          exact hne (Option.some.inj hi')
        simp [Array.getElem?_setIfInBounds_ne hij]

theorem get?_append (hk : args.index[k]? = none) (k' : String) :
    (args.append k v hk).get? k' = if k = k' then some v else args.get? k' := by
  simp only [get?, append, Std.HashMap.getElem?_insert]
  by_cases heq : k = k'
  · simp [heq]
  · rw [if_neg (by simpa using heq), if_neg heq]
    cases hi' : args.index[k']? with
    | none => rfl
    | some j =>
        have hj : j ≠ args.entries.size := by
          rintro rfl
          rw [args.indexed, Array.getElem?_eq_none (Nat.le_refl _)] at hi'
          cases hi'
        simp [Array.getElem?_push, hj]

/-- Storing changes what is found under the key and nothing else. -/
theorem get?_insert (args : Arguments) (k k' : String) (v : Value) :
    (args.insert k v).get? k' = if k = k' then some v else args.get? k' := by
  unfold insert
  split
  next i hi => exact get?_replaceAt hi k'
  next hk => exact get?_append hk k'

/-- A collected table binds each key to the last value that came for it. -/
theorem get?_ofList (entries : List (String × Value)) (k : String) :
    (ofList entries).get? k = (entries.filter (·.1 = k)).getLast?.map Prod.snd := by
  have hlast := Sorted.lookup_foldl get? insert (fun args k v k' => get?_insert args k k' v)
    entries ∅ k
  have hempty : (∅ : Arguments).get? k = none := by
    rw [Option.eq_none_iff_forall_ne_some]
    intro v h
    cases get?_eq_some_iff.mp h
  rwa [hempty, Option.or_none] at hlast

theorem get?_ofList_cons (entry : String × Value) (entries : List (String × Value)) (key : String) :
    (ofList (entry :: entries)).get? key =
      ((ofList entries).get? key).or (if entry.1 = key then some entry.2 else none) := by
  rw [get?_ofList, get?_ofList, ← List.singleton_append, List.filter_append, List.getLast?_append,
    Option.map_or]
  refine congrArg _ ?_
  by_cases hkey : entry.1 = key <;> simp [hkey]

/-- Tables with the same bindings have the same entries, up to order. -/
theorem toList_perm_iff {args args' : Arguments} :
    args.toList.Perm args'.toList ↔ ∀ k, args.get? k = args'.get? k := by
  have hmem : ∀ k v, args.get? k = args'.get? k →
      ((k, v) ∈ args.toList ↔ (k, v) ∈ args'.toList) := by
    intro k v h
    rw [← get?_eq_some_iff, ← get?_eq_some_iff, h]
  constructor
  · intro h k
    refine Option.ext fun v => ?_
    rw [get?_eq_some_iff, get?_eq_some_iff]
    exact h.mem_iff
  · intro h
    refine (List.perm_ext_iff_of_nodup ?_ ?_).mpr fun entry => hmem _ _ (h entry.1)
    · exact List.Nodup.of_map _ args.keys_nodup
    · exact List.Nodup.of_map _ args'.keys_nodup

section Renaming

variable {ρ : String → String} {entries entries' : List (String × Value)}

/-- Renaming keys apart keeps the value of each. -/
theorem get?_ofList_map (hρ : ρ.Injective) (entries : List (String × Value)) (key : String) :
    (ofList (entries.map fun e => (ρ e.1, e.2))).get? (ρ key) = (ofList entries).get? key := by
  have hfilter : (entries.map fun e => (ρ e.1, e.2)).filter (·.1 = ρ key) =
      (entries.filter (·.1 = key)).map fun e => (ρ e.1, e.2) := by
    rw [List.filter_map]
    refine congrArg _ (List.filter_congr fun e _ => ?_)
    simp [hρ.eq_iff]
  rw [get?_ofList, get?_ofList, hfilter, List.getLast?_map, Option.map_map]
  rfl

theorem get?_ofList_map_of_not_mem {key : String} (hkey : key ∉ Set.range ρ)
    (entries : List (String × Value)) :
    (ofList (entries.map fun e => (ρ e.1, e.2))).get? key = none := by
  have hnone : (entries.map fun e => (ρ e.1, e.2)).filter (·.1 = key) = [] := by
    refine List.filter_eq_nil_iff.mpr (List.forall_mem_map.mpr fun e _ => ?_)
    rw [decide_eq_true_eq]
    exact fun heq => hkey ⟨e.1, heq⟩
  rw [get?_ofList, hnone]
  rfl

/-- Renaming keys keeps tables with the same bindings the same. -/
theorem get?_ofList_map_congr (hρ : ρ.Injective)
    (h : ∀ key, (ofList entries).get? key = (ofList entries').get? key) (key : String) :
    (ofList (entries.map fun e => (ρ e.1, e.2))).get? key =
      (ofList (entries'.map fun e => (ρ e.1, e.2))).get? key := by
  by_cases hkey : key ∈ Set.range ρ
  · obtain ⟨key, rfl⟩ := hkey
    rw [get?_ofList_map hρ, get?_ofList_map hρ, h]
  · rw [get?_ofList_map_of_not_mem hkey, get?_ofList_map_of_not_mem hkey]

end Renaming

end Arguments

end Hyperparams

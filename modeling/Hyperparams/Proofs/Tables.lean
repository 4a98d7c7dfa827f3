import Mathlib.Data.List.Nodup
import Mathlib.Data.String.Basic
import Mathlib.Order.RelClasses
import Hyperparams.Tree.Slot

/-!
# Ascending tables

A table whose keys ascend strictly is determined by what it stores under each key. Insertion keeps
tables ascending, and below a new key it only adds one entry.
-/

namespace Hyperparams

namespace Sorted

section Lookup

variable {κ υ : Type} [DecidableEq κ] {k k' : κ} {v : υ} {table : List (κ × υ)}

theorem find?_eq_none_iff : find? k table = none ↔ k ∉ table.map Prod.fst := by
  induction table with
  | nil => simp [find?]
  | cons entry rest ih =>
      by_cases h : k = entry.1
      · simp [find?, h]
      · simp [find?, h, ih]

theorem contains_eq_false_iff : contains k table = false ↔ k ∉ table.map Prod.fst := by
  rw [← find?_eq_none_iff, contains]
  simp

theorem contains_eq_true_iff : contains k table = true ↔ k ∈ table.map Prod.fst := by
  rw [← Bool.not_eq_false, contains_eq_false_iff, not_not]

theorem mem_of_find?_eq_some (h : find? k table = some v) : (k, v) ∈ table := by
  induction table with
  | nil => simp [find?] at h
  | cons entry rest ih =>
      obtain ⟨k', v'⟩ := entry
      unfold find? at h
      split at h
      next hk =>
        cases h
        simp [hk]
      next => exact List.mem_cons_of_mem _ (ih h)

/-- Where no key comes twice, looking up gives exactly the entries. -/
theorem find?_eq_some_iff (hdistinct : (table.map Prod.fst).Nodup) :
    find? k table = some v ↔ (k, v) ∈ table := by
  refine ⟨mem_of_find?_eq_some, fun h => ?_⟩
  induction table with
  | nil => cases h
  | cons entry rest ih =>
      rw [List.map_cons, List.nodup_cons] at hdistinct
      unfold find?
      rcases List.mem_cons.mp h with rfl | hrest
      · simp
      · have hne : k ≠ entry.1 := by
          intro heq
          exact hdistinct.1 (heq ▸ List.mem_map_of_mem (f := Prod.fst) hrest)
        simpa [hne] using ih hdistinct.2 hrest

/-- Where no key comes twice, at most one entry has a key. -/
theorem filter_key_eq (hdistinct : (table.map Prod.fst).Nodup) :
    table.filter (·.1 = k) = (find? k table).toList.map (k, ·) := by
  induction table with
  | nil => rfl
  | cons entry rest ih =>
      obtain ⟨k', v⟩ := entry
      obtain ⟨hfirst, hrest⟩ := List.nodup_cons.mp hdistinct
      by_cases heq : k = k'
      · subst heq
        have hnone : find? k rest = none := find?_eq_none_iff.mpr hfirst
        rw [List.filter_cons_of_pos (by simp), ih hrest, hnone, find?, if_pos rfl]
        rfl
      · rw [List.filter_cons_of_neg (by simpa using Ne.symm heq), ih hrest, find?, if_neg heq]

/-- Changing the values of a table. -/
theorem find?_map_value {υ' : Type} (f : υ → υ') (k : κ) (table : List (κ × υ)) :
    find? k (table.map fun entry => (entry.1, f entry.2)) = (find? k table).map f := by
  induction table with
  | nil => rfl
  | cons entry rest ih =>
      rw [List.map_cons, find?, find?, ih]
      split <;> rfl

/-- Where no key comes twice, the last entry of a key is its only one. -/
theorem getLast?_filter_key (hdistinct : (table.map Prod.fst).Nodup) (k : κ) :
    (table.filter (·.1 = k)).getLast?.map Prod.snd = find? k table := by
  rw [filter_key_eq hdistinct]
  cases find? k table <;> rfl

theorem mem_keys_erase :
    k' ∈ (erase k table).map Prod.fst ↔ k' ∈ table.map Prod.fst ∧ k' ≠ k := by
  unfold erase
  simp only [List.mem_map, List.mem_filter, decide_eq_true_eq]
  constructor
  · rintro ⟨entry, ⟨hentry, hne⟩, rfl⟩
    exact ⟨⟨entry, hentry, rfl⟩, hne⟩
  · rintro ⟨⟨entry, hentry, rfl⟩, hne⟩
    exact ⟨entry, ⟨hentry, hne⟩, rfl⟩

/-- Where no key comes twice, erasing a key that is there takes away one entry. -/
theorem length_erase (hdistinct : (table.map Prod.fst).Nodup) (hmem : k ∈ table.map Prod.fst) :
    (erase k table).length + 1 = table.length := by
  induction table with
  | nil => cases hmem
  | cons entry rest ih =>
      obtain ⟨hhead, hrest⟩ := List.nodup_cons.mp hdistinct
      by_cases heq : entry.1 = k
      · have hself : erase k rest = rest := by
          refine List.filter_eq_self.mpr fun other hother => decide_eq_true fun hk => ?_
          exact hhead (heq.trans hk.symm ▸ List.mem_map_of_mem hother)
        have herase : erase k (entry :: rest) = erase k rest := List.filter_cons_of_neg (by simp [heq])
        rw [herase, hself, List.length_cons]
      · have hmem' := (List.mem_cons.mp hmem).resolve_left (Ne.symm heq)
        have hlength := ih hrest hmem'
        simpa [erase, heq] using hlength

end Lookup

/-- Storing entries one after the other leaves under each key the last value that came for it. -/
theorem lookup_foldl {κ υ τ : Type} [DecidableEq κ] (lookup : τ → κ → Option υ)
    (store : τ → κ → υ → τ)
    (hstore : ∀ table k v k', lookup (store table k v) k' = if k = k' then some v else lookup table k')
    (entries : List (κ × υ)) (table : τ) (k : κ) :
    lookup (entries.foldl (fun table entry => store table entry.1 entry.2) table) k =
      ((entries.filter (·.1 = k)).getLast?.map Prod.snd).or (lookup table k) := by
  induction entries generalizing table with
  | nil => rfl
  | cons entry rest ih =>
      rw [List.foldl_cons, ih, hstore, List.filter_cons]
      by_cases hkey : entry.1 = k
      · rw [if_pos hkey, if_pos (decide_eq_true hkey), List.getLast?_cons]
        cases (rest.filter (·.1 = k)).getLast? <;> rfl
      · rw [if_neg hkey, if_neg (by simpa using hkey)]

section Order

variable {κ υ : Type} [LT κ] {k : κ} {v : υ} {table table' : List (κ × υ)}

theorem ascending_iff_keys : Ascending table ↔ (table.map Prod.fst).Pairwise (· < ·) :=
  List.pairwise_map.symm

/-- Whether a table ascends only depends on its keys. -/
theorem ascending_iff_of_keys {υ' : Type} {other : List (κ × υ')}
    (h : table.map Prod.fst = other.map Prod.fst) : Ascending table ↔ Ascending other := by
  rw [ascending_iff_keys, ascending_iff_keys, h]

section Insertion

variable [DecidableLT κ] [DecidableEq κ]

/-- A new key adds one entry. -/
theorem insert_perm (hnew : k ∉ table.map Prod.fst) :
    (insert k v table).Perm ((k, v) :: table) := by
  induction table with
  | nil => exact List.Perm.refl _
  | cons entry rest ih =>
      obtain ⟨k', v'⟩ := entry
      simp only [List.map_cons, List.mem_cons, not_or] at hnew
      unfold insert
      split
      · exact List.Perm.refl _
      · rw [if_neg hnew.1]
        exact ((ih hnew.2).cons _).trans (List.Perm.swap _ _ _)

theorem find?_insert (k k' : κ) (v : υ) (table : List (κ × υ)) :
    find? k' (Sorted.insert k v table) = if k = k' then some v else find? k' table := by
  split
  next heq => rw [← heq, find?_insert_self]
  next hne => exact find?_insert_of_ne (fun heq => hne heq.symm) v table

theorem mem_keys_insert {k' : κ} :
    k' ∈ (insert k v table).map Prod.fst ↔ k' = k ∨ k' ∈ table.map Prod.fst := by
  rw [← not_iff_not, not_or, ← find?_eq_none_iff, ← find?_eq_none_iff, find?_insert]
  split
  next heq => simp [heq]
  next hne => simp [Ne.symm hne]

/-- Entries are new to a table with one more entry if they are new to the table and to that
entry. -/
theorem forall_new_insert {entries : List (κ × υ)} :
    (∀ entry ∈ entries, entry.1 ∉ (insert k v table).map Prod.fst) ↔
      k ∉ entries.map Prod.fst ∧ ∀ entry ∈ entries, entry.1 ∉ table.map Prod.fst := by
  simp only [mem_keys_insert, not_or]
  constructor
  · intro h
    refine ⟨fun hmem => ?_, fun entry hentry => (h entry hentry).2⟩
    obtain ⟨entry, hentry, heq⟩ := List.mem_map.mp hmem
    exact (h entry hentry).1 heq
  · rintro ⟨hfirst, hrest⟩ entry hentry
    exact ⟨fun heq => hfirst (heq ▸ List.mem_map_of_mem hentry), hrest entry hentry⟩

theorem mem_foldl_insert {entries : List (κ × υ)} {entry : κ × υ}
    (h : entry ∈ entries.foldl (fun table entry => Sorted.insert entry.1 entry.2 table) table) :
    entry ∈ entries ∨ entry ∈ table := by
  induction entries generalizing table with
  | nil => exact Or.inr h
  | cons head rest ih =>
      rcases ih h with hrest | htable
      · exact Or.inl (List.mem_cons_of_mem _ hrest)
      · rcases mem_insert htable with rfl | hbefore
        · exact Or.inl List.mem_cons_self
        · exact Or.inr hbefore

/-- A table has no other entries than those that it is made of. -/
theorem mem_of_mem_ofList {entries : List (κ × υ)} {entry : κ × υ} (h : entry ∈ ofList entries) :
    entry ∈ entries :=
  (mem_foldl_insert h).resolve_right List.not_mem_nil

/-- Under each key the last entry counts, and else what was there. -/
theorem find?_foldl_insert (entries table : List (κ × υ)) (k : κ) :
    find? k (entries.foldl (fun table entry => Sorted.insert entry.1 entry.2 table) table) =
      ((entries.filter (·.1 = k)).getLast?.map Prod.snd).or (find? k table) :=
  lookup_foldl (fun table k => find? k table) (fun table k v => Sorted.insert k v table)
    (fun table k v k' => find?_insert k k' v table) entries table k

/-- Entries whose keys are new and distinct are added. -/
theorem foldl_insert_perm {entries : List (κ × υ)} (hdistinct : (entries.map Prod.fst).Nodup)
    (hnew : ∀ entry ∈ entries, entry.1 ∉ table.map Prod.fst) :
    (entries.foldl (fun table entry => Sorted.insert entry.1 entry.2 table) table).Perm
      (entries ++ table) := by
  induction entries generalizing table with
  | nil => exact List.Perm.refl _
  | cons entry rest ih =>
      obtain ⟨hentry, hrestNew⟩ := List.forall_mem_cons.mp hnew
      obtain ⟨hfirst, hrest⟩ := List.nodup_cons.mp hdistinct
      have hnext := (forall_new_insert (v := entry.2)).mpr ⟨hfirst, hrestNew⟩
      exact (ih hrest hnext).trans (((insert_perm hentry).append_left rest).trans List.perm_middle)

/-- Entries with distinct keys are all in their table. -/
theorem ofList_perm {entries : List (κ × υ)} (hdistinct : (entries.map Prod.fst).Nodup) :
    (ofList entries).Perm entries := by
  have hperm : (ofList entries).Perm (entries ++ []) :=
    foldl_insert_perm hdistinct fun _ _ => List.not_mem_nil
  rwa [List.append_nil] at hperm

end Insertion

variable [StrictTotal κ]

/-- No key of an ascending table comes twice. -/
theorem Ascending.nodup (h : Ascending table) : (table.map Prod.fst).Nodup := by
  refine List.Pairwise.map _ (fun a b hlt heq => ?_) h
  rw [heq] at hlt
  exact StrictTotal.irrefl b.1 hlt

/-- An ascending table is determined by its set of entries. -/
theorem Ascending.eq_of_perm (h : Ascending table) (h' : Ascending table')
    (hperm : table.Perm table') : table = table' := by
  refine List.Perm.eq_of_pairwise (fun a b _ _ hab hba => ?_) h h' hperm
  exact absurd (StrictTotal.trans hab hba) (StrictTotal.irrefl a.1)

/-- An ascending table is determined by what it stores under each key. -/
theorem Ascending.ext [DecidableEq κ] (h : Ascending table) (h' : Ascending table')
    (hfind : ∀ k, find? k table = find? k table') : table = table' := by
  refine h.eq_of_perm h' ((List.perm_ext_iff_of_nodup ?_ ?_).mpr fun entry => ?_)
  · exact List.Nodup.of_map _ h.nodup
  · exact List.Nodup.of_map _ h'.nodup
  · rw [← find?_eq_some_iff h.nodup, ← find?_eq_some_iff h'.nodup, hfind]

variable [DecidableLT κ] [DecidableEq κ]

/-- Entries that ascend are a table already. -/
theorem Ascending.ofList_eq (h : Ascending table) : ofList table = table :=
  (ascending_ofList table).eq_of_perm h (ofList_perm h.nodup)

/-- A table only depends on the order of the entries of each key. -/
theorem ofList_congr {entries entries' : List (κ × υ)}
    (h : ∀ k, entries.filter (·.1 = k) = entries'.filter (·.1 = k)) :
    ofList entries = ofList entries' := by
  unfold ofList
  refine (ascending_foldl_insert entries List.Pairwise.nil).ext
    (ascending_foldl_insert entries' List.Pairwise.nil) fun k => ?_
  rw [find?_foldl_insert, find?_foldl_insert, h]

end Order

/-- Where no key comes twice, the order of entries leaves each key its entry. -/
theorem filter_key_eq_of_perm {κ υ : Type} [DecidableEq κ] {entries entries' : List (κ × υ)}
    (h : entries.Perm entries') (hdistinct : (entries.map Prod.fst).Nodup) (k : κ) :
    entries.filter (·.1 = k) = entries'.filter (·.1 = k) := by
  have hfilter := h.filter (·.1 = k)
  have hkeys := hdistinct.sublist (List.filter_sublist (p := (·.1 = k)).map Prod.fst)
  have hkey : ∀ entry ∈ entries.filter (·.1 = k), entry.1 = k := fun entry hentry =>
    of_decide_eq_true (List.mem_filter.mp hentry).2
  revert hfilter hkeys hkey
  -- two entries under the same key would repeat it
  cases entries.filter (·.1 = k) with
  | nil => exact fun hfilter _ _ => hfilter.nil_eq
  | cons entry rest =>
      cases rest with
      | nil => exact fun hfilter _ _ => hfilter.singleton_eq
      | cons other rest =>
          intro _ hkeys hkey
          refine absurd ?_ (List.nodup_cons.mp hkeys).1
          rw [hkey entry List.mem_cons_self, ← hkey other (List.mem_cons_of_mem _ List.mem_cons_self)]
          exact List.mem_cons_self

end Sorted

namespace Sorted.Table

variable {κ υ υ' : Type} [LT κ] {t t' : Table κ υ}

@[simp]
theorem entries_filter (p : κ × υ → Bool) (t : Table κ υ) :
    (t.filter p).entries = t.entries.filter p := rfl

@[simp]
theorem keys_mapValues (f : υ → υ') (t : Table κ υ) : (t.mapValues f).keys = t.keys :=
  List.map_map

@[simp]
theorem keys_empty : (∅ : Table κ υ).keys = [] := rfl

theorem keys_eq_nil_iff : t.keys = [] ↔ t = ∅ :=
  List.map_eq_nil_iff.trans ⟨fun h => ext h, fun h => congrArg entries h⟩

/-- The keys of a table ascend. -/
theorem ascending_keys (t : Table κ υ) : t.keys.Pairwise (· < ·) :=
  List.pairwise_map.mpr t.ascending

section Order

variable [StrictTotal κ]

theorem nodup_keys (t : Table κ υ) : t.keys.Nodup :=
  t.ascending.nodup

end Order

variable [DecidableEq κ] {k : κ} {v : υ}

@[simp]
theorem entries_erase (k : κ) (t : Table κ υ) : (t.erase k).entries = Sorted.erase k t.entries := rfl

theorem contains_eq_false_iff : t.contains k = false ↔ k ∉ t.keys :=
  Sorted.contains_eq_false_iff

theorem contains_eq_true_iff : t.contains k = true ↔ k ∈ t.keys :=
  Sorted.contains_eq_true_iff

theorem contains_eq_isSome (k : κ) (t : Table κ υ) : t.contains k = (t.find? k).isSome := rfl

theorem find?_eq_none_iff : t.find? k = none ↔ k ∉ t.keys :=
  Sorted.find?_eq_none_iff

theorem find?_mapValues (f : υ → υ') (k : κ) (t : Table κ υ) :
    (t.mapValues f).find? k = (t.find? k).map f :=
  Sorted.find?_map_value f k t.entries

theorem mem_keys_erase {k' : κ} : k' ∈ (t.erase k).keys ↔ k' ∈ t.keys ∧ k' ≠ k :=
  Sorted.mem_keys_erase

theorem erase_mapValues (f : υ → υ') (k : κ) (t : Table κ υ) :
    (t.mapValues f).erase k = (t.erase k).mapValues f :=
  ext List.filter_map

/-- Erasing a key that is not there changes nothing. -/
theorem erase_eq_self (h : k ∉ t.keys) : t.erase k = t := by
  refine ext (List.filter_eq_self.mpr fun entry hentry => decide_eq_true fun heq => ?_)
  exact h (heq ▸ List.mem_map_of_mem hentry)

theorem find?_erase_of_ne {k' : κ} (hne : k' ≠ k) (t : Table κ υ) :
    (t.erase k).find? k' = t.find? k' :=
  Sorted.find?_erase_of_ne hne t.entries

variable [StrictTotal κ]

/-- Looking up gives exactly the entries. -/
theorem find?_eq_some_iff : t.find? k = some v ↔ (k, v) ∈ t.entries :=
  Sorted.find?_eq_some_iff t.nodup_keys

/-- Tables that store the same under each key are the same. -/
theorem ext_find (h : ∀ k, t.find? k = t'.find? k) : t = t' :=
  ext (t.ascending.ext t'.ascending h)

/-- Erasing a key that is there takes away one entry. -/
theorem size_erase (h : k ∈ t.keys) : (t.erase k).size + 1 = t.size :=
  Sorted.length_erase t.nodup_keys h

variable [DecidableLT κ]

@[simp]
theorem entries_insert (k : κ) (v : υ) (t : Table κ υ) :
    (t.insert k v).entries = Sorted.insert k v t.entries := rfl

@[simp]
theorem entries_ofList (entries : List (κ × υ)) :
    (ofList entries).entries = Sorted.ofList entries := rfl

/-- Storing adds its key and no other. -/
theorem mem_keys_insert {k' : κ} : k' ∈ (t.insert k v).keys ↔ k' = k ∨ k' ∈ t.keys :=
  Sorted.mem_keys_insert

/-- A key that is not there yet adds one entry. -/
theorem insert_perm (h : k ∉ t.keys) : (t.insert k v).entries.Perm ((k, v) :: t.entries) :=
  Sorted.insert_perm h

/-- Making a table of the entries of a table gives the table. -/
theorem ofList_entries (t : Table κ υ) : ofList t.entries = t :=
  ext t.ascending.ofList_eq

/-- Entries whose keys are distinct are all kept. -/
theorem ofList_perm {entries : List (κ × υ)} (h : (entries.map Prod.fst).Nodup) :
    (ofList entries).entries.Perm entries :=
  Sorted.ofList_perm h

/-- A table only depends on the order of the entries of each key. -/
theorem ofList_congr {entries entries' : List (κ × υ)}
    (h : ∀ k, entries.filter (·.1 = k) = entries'.filter (·.1 = k)) :
    ofList entries = ofList entries' :=
  ext (Sorted.ofList_congr h)

theorem find?_insert (k k' : κ) (v : υ) (t : Table κ υ) :
    (t.insert k v).find? k' = if k = k' then some v else t.find? k' :=
  Sorted.find?_insert k k' v t.entries

/-- The last value under a key counts. -/
theorem find?_ofList (entries : List (κ × υ)) (k : κ) :
    (ofList entries).find? k = (entries.filter (·.1 = k)).getLast?.map Prod.snd :=
  (Sorted.find?_foldl_insert entries [] k).trans Option.or_none

theorem mem_keys_ofList {entries : List (κ × υ)} :
    k ∈ (ofList entries).keys ↔ k ∈ entries.map Prod.fst := by
  rw [← not_iff_not, ← find?_eq_none_iff, find?_ofList, Option.map_eq_none_iff,
    List.getLast?_eq_none_iff, List.filter_eq_nil_iff, List.mem_map, not_exists]
  simp only [decide_eq_true_eq, not_and]

/-- Changing the values of a table is changing those that it is made of. -/
theorem ofList_mapValues (f : υ → υ') (entries : List (κ × υ)) :
    ofList (entries.map fun entry => (entry.1, f entry.2)) = (ofList entries).mapValues f := by
  refine ext_find fun k => ?_
  rw [find?_mapValues, find?_ofList, find?_ofList, List.filter_map, List.getLast?_map,
    Option.map_map, Option.map_map]
  rfl

end Sorted.Table

end Hyperparams

import Mathlib.Data.Finset.Card
import Hyperparams.Proofs.Table

/-!
# Insertions into tables

Entries are stored in a table one after the other. After each of them the keys stand in the order
in which they first came, and each key has the value that came last. So an insertion replaces the
value that came last before it, and storing the entries of a table again gives the same table.
-/

namespace Hyperparams

namespace Arguments

def lastValue? (entries : List (String × Value)) (k : String) : Option Value :=
  (entries.filter (·.1 = k)).getLast?.map Prod.snd

/-- A table in which some entries were stored: each key stands where it came first, with the value
that came last. -/
structure Collects (entries : List (String × Value)) (args : Arguments) : Prop where
  keys : args.keys = (entries.map Prod.fst).eraseDups
  get? : ∀ k, args.get? k = lastValue? entries k

/-- Store entries one after the other; with the table comes what each of them replaced. -/
def insertAll (args : Arguments) : List (String × Value) → List (Option Value) × Arguments
  | [] => ([], args)
  | (k, v) :: rest =>
    let (replaced, args) := args.getThenInsert? k v
    let (others, args) := args.insertAll rest
    (replaced :: others, args)

/-- A table after some insertions, and what each of them has replaced. -/
structure Records (calls : List (String × Value)) (replaced : List (Option Value))
    (args : Arguments) : Prop where
  /-- The index leads to the entry of the key. -/
  entry_of_index : ∀ k i, args.index[k]? = some i →
    ∃ h : i < args.entries.size, args.entries[i].1 = k
  /-- The index knows the place of every entry. -/
  index_of_entry : ∀ i (h : i < args.entries.size), args.index[args.entries[i].1]? = some i
  distinct : args.keys.Nodup
  /-- The keys stand in the order in which they first came. -/
  keys : args.keys = (calls.map Prod.fst).eraseDups
  get? : ∀ k, args.get? k = lastValue? calls k
  /-- Each insertion gives the value that came last before it, and none if the key is new. -/
  replaced : replaced.length = calls.length ∧ ∀ i k v, calls[i]? = some (k, v) →
    replaced[i]? = some (lastValue? (calls.take i) k)
  size : args.size = (calls.map Prod.fst).toFinset.card
  recollected : (ofList args.toList).toList = args.toList

section Step

variable {entries : List (String × Value)} {args : Arguments} {k : String} {v : Value}

/-- A key that comes again adds nothing to the distinct keys. -/
theorem eraseDups_concat (keys : List String) (key : String) :
    (keys ++ [key]).eraseDups = if key ∈ keys then keys.eraseDups else keys.eraseDups ++ [key] := by
  rw [List.eraseDups_append]
  by_cases hmem : key ∈ keys <;> simp [hmem, List.removeAll, List.eraseDups_cons]

theorem lastValue?_concat (entries : List (String × Value)) (k k' : String) (v : Value) :
    lastValue? (entries ++ [(k, v)]) k' = if k = k' then some v else lastValue? entries k' := by
  unfold lastValue?
  rw [List.filter_append]
  by_cases heq : k = k' <;> simp [heq]

theorem collects_empty : Collects [] ∅ where
  keys := rfl
  get? k := get?_ofList [] k

/-- One more entry stands at the end if its key is new, and else in the place of the key. -/
theorem Collects.insert (h : Collects entries args) (k : String) (v : Value) :
    Collects (entries ++ [(k, v)]) (args.insert k v) where
  keys := by
    have hmem : k ∈ args.keys ↔ k ∈ entries.map Prod.fst := by
      rw [h.keys, List.mem_eraseDups]
    rw [List.map_append, List.map_singleton, eraseDups_concat, ← h.keys]
    by_cases hk : k ∈ args.keys
    · rw [if_pos (hmem.mp hk), keys_insert_of_mem hk]
    · rw [if_neg fun hin => hk (hmem.mpr hin), keys_insert_of_not_mem hk]
  get? k' := by rw [get?_insert, lastValue?_concat, h.get?]

end Step

section Run

variable {before calls : List (String × Value)} {args : Arguments}

/-- Insertions extend what a table has collected. -/
theorem Collects.insertAll (h : Collects before args) (calls : List (String × Value)) :
    Collects (before ++ calls) (args.insertAll calls).2 := by
  induction calls generalizing before args with
  | nil => simpa [Arguments.insertAll] using h
  | cons call rest ih =>
      rw [List.append_cons]
      exact ih (h.insert call.1 call.2)

theorem length_insertAll (args : Arguments) (calls : List (String × Value)) :
    (args.insertAll calls).1.length = calls.length := by
  induction calls generalizing args with
  | nil => rfl
  | cons call rest ih => exact congrArg (· + 1) (ih (args.insert call.1 call.2))

/-- An insertion replaces what came last before it, also before the run. -/
theorem Collects.replaced (h : Collects before args) {i : Nat} {k : String} {v : Value}
    (hcall : calls[i]? = some (k, v)) :
    (args.insertAll calls).1[i]? = some (lastValue? (before ++ calls.take i) k) := by
  induction calls generalizing before args i with
  | nil => cases hcall
  | cons call rest ih =>
      cases i with
      | zero =>
          cases hcall
          rw [List.take_zero, List.append_nil, ← h.get?]
          rfl
      | succ i =>
          rw [List.take_succ_cons, List.append_cons]
          exact ih (h.insert call.1 call.2) hcall

/-- Index and entries of a table agree after all insertions, and together they record what was
inserted. -/
theorem insertAll_records (calls : List (String × Value)) :
    Records calls ((∅ : Arguments).insertAll calls).1 ((∅ : Arguments).insertAll calls).2 := by
  have hcollects : Collects calls ((∅ : Arguments).insertAll calls).2 :=
    collects_empty.insertAll calls
  refine ⟨fun k i hi => ?_, fun i hi => ?_, keys_nodup _, hcollects.keys, hcollects.get?,
    ⟨length_insertAll ∅ calls, fun i k v hcall => collects_empty.replaced hcall⟩, ?_,
    toList_ofList (keys_nodup _)⟩
  · have hplace := (indexed _ k i).mp hi
    rw [Array.getElem?_eq_getElem (index_lt_size hi)] at hplace
    exact ⟨index_lt_size hi, Option.some.inj hplace⟩
  · rw [indexed, Array.getElem?_eq_getElem hi]
    rfl
  · have hsame : ((∅ : Arguments).insertAll calls).2.keys.toFinset =
        (calls.map Prod.fst).toFinset := by
      ext key
      rw [hcollects.keys, List.mem_toFinset, List.mem_toFinset, List.mem_eraseDups]
    rw [size_eq_length_keys, ← List.toFinset_card_of_nodup (keys_nodup _), hsame]

end Run

end Arguments

end Hyperparams

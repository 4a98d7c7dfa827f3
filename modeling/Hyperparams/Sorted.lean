/-!
# Sorted tables

A table is a list of key and value pairs whose keys ascend strictly, so that listing the table
gives its keys in order. Looking up needs no order, and storing and erasing keep it. A `Table` is
such a list together with its order; only where a table is part of a recursive type, which cannot
carry a proof about itself, it stays a list.
-/

namespace Hyperparams.Sorted

section Lookup

variable {κ υ : Type} [DecidableEq κ]

def find? (k : κ) : List (κ × υ) → Option υ
  | [] => none
  | (k', v) :: rest => if k = k' then some v else find? k rest

def contains (k : κ) (table : List (κ × υ)) : Bool :=
  (find? k table).isSome

def erase (k : κ) (table : List (κ × υ)) : List (κ × υ) :=
  table.filter fun entry => entry.1 ≠ k

theorem find?_erase_of_ne {k k' : κ} (hne : k' ≠ k) (table : List (κ × υ)) :
    find? k' (erase k table) = find? k' table := by
  induction table with
  | nil => rfl
  | cons entry rest ih =>
      obtain ⟨k₀, v₀⟩ := entry
      by_cases h : k₀ = k
      · simpa [erase, h, find?, hne] using ih
      · by_cases h' : k' = k₀
        · simp [erase, h, find?, h']
        · simpa [erase, h, find?, h'] using ih

end Lookup

/-- Keys whose order is strict and total. -/
class StrictTotal (κ : Type) [LT κ] : Prop where
  irrefl (k : κ) : ¬ k < k
  trans {a b c : κ} : a < b → b < c → a < c
  trichotomous (a b : κ) : ¬ a < b → ¬ b < a → a = b

instance : StrictTotal String where
  irrefl := String.lt_irrefl
  trans := String.lt_trans
  trichotomous := Std.Trichotomous.trichotomous

instance : StrictTotal (List String) where
  irrefl := List.lt_irrefl
  trans := List.lt_trans
  trichotomous := Std.Trichotomous.trichotomous

section Order

variable {κ υ : Type} [LT κ]

def Ascending (table : List (κ × υ)) : Prop :=
  table.Pairwise fun a b => a.1 < b.1

instance [DecidableLT κ] (table : List (κ × υ)) : Decidable (Ascending table) :=
  inferInstanceAs (Decidable (table.Pairwise fun a b => a.1 < b.1))

theorem Ascending.filter {table : List (κ × υ)} (h : Ascending table) (p : κ × υ → Bool) :
    Ascending (table.filter p) :=
  List.Pairwise.filter p h

theorem Ascending.mapValues {υ' : Type} {table : List (κ × υ)} (h : Ascending table)
    (f : υ → υ') : Ascending (table.map fun entry => (entry.1, f entry.2)) :=
  List.pairwise_map.mpr h

variable [DecidableLT κ] [DecidableEq κ]

/-- Store a value under a key, replacing the value that is there. -/
def insert (k : κ) (v : υ) : List (κ × υ) → List (κ × υ)
  | [] => [(k, v)]
  | (k', v') :: rest =>
    if k < k' then (k, v) :: (k', v') :: rest
    else if k = k' then (k, v) :: rest
    else (k', v') :: insert k v rest

/-- The table of some entries, the last one under a key counting. -/
def ofList (entries : List (κ × υ)) : List (κ × υ) :=
  entries.foldl (fun table entry => insert entry.1 entry.2 table) []

theorem find?_insert_self (k : κ) (v : υ) (table : List (κ × υ)) :
    find? k (insert k v table) = some v := by
  induction table with
  | nil => simp [insert, find?]
  | cons entry rest ih =>
      obtain ⟨k', v'⟩ := entry
      unfold insert
      split
      · simp [find?]
      · split
        · simp [find?]
        · rename_i hne
          simpa [find?, hne] using ih

theorem find?_insert_of_ne {k k' : κ} (hne : k' ≠ k) (v : υ) (table : List (κ × υ)) :
    find? k' (insert k v table) = find? k' table := by
  induction table with
  | nil => simp [insert, find?, hne]
  | cons entry rest ih =>
      obtain ⟨k₀, v₀⟩ := entry
      unfold insert
      split
      · simp [find?, hne]
      · split
        · rename_i heq
          simp [find?, hne, ← heq]
        · simp [find?, ih]

/-- Storing adds one entry at most. -/
theorem mem_insert {k : κ} {v : υ} {table : List (κ × υ)} {entry : κ × υ}
    (h : entry ∈ insert k v table) : entry = (k, v) ∨ entry ∈ table := by
  induction table with
  | nil => exact Or.inl (List.mem_singleton.mp h)
  | cons head rest ih =>
      obtain ⟨k', v'⟩ := head
      unfold insert at h
      split at h
      · exact List.mem_cons.mp h
      · split at h
        · exact (List.mem_cons.mp h).imp_right (List.mem_cons_of_mem _)
        · rcases List.mem_cons.mp h with heq | hrest
          · exact Or.inr (heq ▸ List.mem_cons_self)
          · exact (ih hrest).imp_right (List.mem_cons_of_mem _)

variable [StrictTotal κ]

/-- Storing keeps a table ascending. -/
theorem Ascending.insert {k : κ} {v : υ} {table : List (κ × υ)} (h : Ascending table) :
    Ascending (insert k v table) := by
  induction table with
  | nil => exact List.pairwise_singleton _ _
  | cons entry rest ih =>
      obtain ⟨k', v'⟩ := entry
      obtain ⟨hhead, hrest⟩ := List.pairwise_cons.mp h
      unfold Sorted.insert
      split
      next hlt =>
        refine List.pairwise_cons.mpr ⟨fun entry hentry => ?_, h⟩
        rcases List.mem_cons.mp hentry with rfl | hmem
        · exact hlt
        · exact StrictTotal.trans hlt (hhead entry hmem)
      next hnot =>
        split
        next heq =>
          subst heq
          exact List.pairwise_cons.mpr ⟨hhead, hrest⟩
        next hne =>
          refine List.pairwise_cons.mpr ⟨fun entry hentry => ?_, ih hrest⟩
          rcases mem_insert hentry with rfl | hmem
          · exact Decidable.byContradiction fun hgt =>
              hne (StrictTotal.trichotomous _ _ hnot hgt)
          · exact hhead entry hmem

theorem ascending_foldl_insert (entries : List (κ × υ)) {table : List (κ × υ)}
    (h : Ascending table) :
    Ascending (entries.foldl (fun table entry => Sorted.insert entry.1 entry.2 table) table) := by
  induction entries generalizing table with
  | nil => exact h
  | cons entry rest ih => exact ih h.insert

theorem ascending_ofList (entries : List (κ × υ)) : Ascending (ofList entries) :=
  ascending_foldl_insert entries List.Pairwise.nil

end Order

/-- A list of entries with its order. -/
structure Table (κ υ : Type) [LT κ] where
  entries : List (κ × υ)
  ascending : Ascending entries
deriving DecidableEq

namespace Table

variable {κ υ υ' : Type} [LT κ]

instance : EmptyCollection (Table κ υ) := ⟨⟨[], List.Pairwise.nil⟩⟩

instance : Inhabited (Table κ υ) := ⟨∅⟩

/-- A table is determined by its entries. -/
theorem ext {t t' : Table κ υ} (h : t.entries = t'.entries) : t = t' := by
  cases t
  cases t'
  cases h
  rfl

def keys (t : Table κ υ) : List κ :=
  t.entries.map Prod.fst

def size (t : Table κ υ) : Nat :=
  t.entries.length

def filter (p : κ × υ → Bool) (t : Table κ υ) : Table κ υ :=
  ⟨t.entries.filter p, t.ascending.filter p⟩

def mapValues (f : υ → υ') (t : Table κ υ) : Table κ υ' :=
  ⟨t.entries.map fun entry => (entry.1, f entry.2), t.ascending.mapValues f⟩

section Keys

variable [DecidableEq κ]

def find? (k : κ) (t : Table κ υ) : Option υ :=
  Sorted.find? k t.entries

def contains (k : κ) (t : Table κ υ) : Bool :=
  Sorted.contains k t.entries

def erase (k : κ) (t : Table κ υ) : Table κ υ :=
  t.filter fun entry => entry.1 ≠ k

variable [DecidableLT κ] [StrictTotal κ]

def insert (k : κ) (v : υ) (t : Table κ υ) : Table κ υ :=
  ⟨Sorted.insert k v t.entries, t.ascending.insert⟩

def ofList (entries : List (κ × υ)) : Table κ υ :=
  ⟨Sorted.ofList entries, ascending_ofList entries⟩

end Keys

end Table

end Hyperparams.Sorted

import Std.Data.HashMap
import Hyperparams.Value.Basic

/-!
# Argument tables

A table of values by key that keeps the order in which the keys first came. Storing under a key
that is present replaces the value and keeps the place. An index finds the place of a key; the
table carries the proof that index and entries agree, which also makes the keys distinct.
-/

namespace Hyperparams

/-- Values by key, in the order in which the keys first came. -/
structure Arguments where
  entries : Array (String × Value)
  index : Std.HashMap String Nat
  indexed : ∀ (k : String) (i : Nat), index[k]? = some i ↔ entries[i]?.map Prod.fst = some k

namespace Arguments

def empty : Arguments where
  entries := #[]
  index := ∅
  indexed k i := by simp

instance : EmptyCollection Arguments := ⟨empty⟩
instance : Inhabited Arguments := ⟨empty⟩

def toList (args : Arguments) : List (String × Value) :=
  args.entries.toList

def keys (args : Arguments) : List String :=
  args.toList.map Prod.fst

def size (args : Arguments) : Nat :=
  args.entries.size

def get? (args : Arguments) (k : String) : Option Value :=
  args.index[k]?.bind fun i => args.entries[i]?.map Prod.snd

def contains (args : Arguments) (k : String) : Bool :=
  args.index.contains k

/-- Replace the value in the place of a key. -/
def replaceAt (args : Arguments) (k : String) (v : Value) (i : Nat)
    (hi : args.index[k]? = some i) : Arguments where
  entries := args.entries.setIfInBounds i (k, v)
  index := args.index
  indexed k' j := by
    have hplace := (args.indexed k i).mp hi
    rw [args.indexed k' j, Array.getElem?_setIfInBounds]
    split
    · rename_i hij
      subst hij
      split
      · simp [hplace]
      · rename_i hout
        simp [Array.getElem?_eq_none (Nat.le_of_not_lt hout)] at hplace
    · rfl

def append (args : Arguments) (k : String) (v : Value) (hk : args.index[k]? = none) :
    Arguments where
  entries := args.entries.push (k, v)
  index := args.index.insert k args.entries.size
  indexed k' j := by
    rw [Std.HashMap.getElem?_insert, Array.getElem?_push]
    by_cases hkey : k = k'
    · subst hkey
      simp only [beq_self_eq_true, if_true, Option.some.injEq]
      by_cases hj : j = args.entries.size
      · simp [hj]
      · simp only [hj, if_false]
        refine ⟨fun h => absurd h.symm hj, fun h => ?_⟩
        rw [← args.indexed, hk] at h
        cases h
    · simp only [beq_iff_eq, hkey, if_false]
      by_cases hj : j = args.entries.size
      · subst hj
        have hout : args.entries[args.entries.size]? = none := by simp
        simp [args.indexed, hkey]
      · simp only [hj, if_false]
        exact args.indexed k' j

def insert (args : Arguments) (k : String) (v : Value) : Arguments :=
  match hi : args.index[k]? with
  | some i => args.replaceAt k v i hi
  | none => args.append k v hi

/-- Store a value under a key, and give the value that it replaces. -/
def getThenInsert? (args : Arguments) (k : String) (v : Value) : Option Value × Arguments :=
  (args.get? k, args.insert k v)

/-- The table of some entries, stored one after the other. -/
def ofList (entries : List (String × Value)) : Arguments :=
  entries.foldl (fun args entry => args.insert entry.1 entry.2) ∅

def toJson (args : Arguments) : Json :=
  .object (args.toList.map fun (k, v) => (k, v.toJson))

end Arguments

end Hyperparams

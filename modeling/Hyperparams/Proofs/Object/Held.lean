import Hyperparams.Object.CallArgs
import Hyperparams.Proofs.Tree.Positions

/-!
# Arguments that are held

A call holds the arguments that are not yet taken, each in the slot in which it was given. Taking a
parameter, a name or all positions removes the arguments in these slots and moves no other.
-/

namespace Hyperparams

/-- Whether a slot is that of a parameter with a position and a name. -/
def Slot.isParameter (index : Nat) (name : String) (slot : Slot) : Bool :=
  slot = positional index || slot = named name

namespace CallArgs

variable {ω α : Type}

def withoutPositions (args : CallArgs ω) : CallArgs ω :=
  { args with positional := args.positional.map fun _ => none }

/-- The arguments that are not taken, with their positions, which are counted from `start` on. -/
def heldFrom (start : Nat) : List (Option α) → List (Nat × α)
  | [] => []
  | none :: rest => heldFrom (start + 1) rest
  | some a :: rest => (start, a) :: heldFrom (start + 1) rest

/-- The arguments that are not taken, each with its slot. -/
def held (args : CallArgs ω) : List (Slot × Argument ω) :=
  atPositions (heldFrom 0 args.positional) ++ atNames args.named.entries

section Positions

variable {α : Type} {start : Nat}

theorem le_of_mem_heldFrom {places : List (Option α)} {entry : Nat × α}
    (h : entry ∈ heldFrom start places) : start ≤ entry.1 := by
  induction places generalizing start with
  | nil => cases h
  | cons place rest ih =>
      cases place with
      | none => exact Nat.le_of_succ_le (ih h)
      | some a =>
          rcases List.mem_cons.mp h with rfl | hrest
          · exact Nat.le_refl start
          · exact Nat.le_of_succ_le (ih hrest)

/-- Arguments are held in the order of their positions. -/
theorem heldFrom_pairwise (start : Nat) (places : List (Option α)) :
    (heldFrom start places).Pairwise fun a b => a.1 < b.1 := by
  induction places generalizing start with
  | nil => exact List.Pairwise.nil
  | cons place rest ih =>
      cases place with
      | none => exact ih (start + 1)
      | some a => exact List.pairwise_cons.mpr ⟨fun entry hentry => le_of_mem_heldFrom hentry, ih _⟩

theorem heldFrom_filter_eq (start index : Nat) (places : List (Option α)) :
    (heldFrom start places).filter (·.1 = start + index) =
      places[index]?.join.toList.map (start + index, ·) := by
  induction places generalizing start index with
  | nil => rfl
  | cons place rest ih =>
      cases index with
      | zero =>
          -- later positions are greater
          have hrest : (heldFrom (start + 1) rest).filter (·.1 = start + 0) = [] := by
            refine List.filter_eq_nil_iff.mpr fun entry hentry => ?_
            have hle := le_of_mem_heldFrom hentry
            simp
            omega
          cases place with
          | none => exact hrest
          | some a =>
              rw [heldFrom, List.filter_cons_of_pos (by simp), hrest]
              rfl
      | succ index =>
          have hrest := ih (start + 1) index
          rw [Nat.add_right_comm] at hrest
          cases place with
          | none => exact hrest
          | some a =>
              rw [heldFrom, List.filter_cons_of_neg (by simp)]
              exact hrest

/-- Emptying one place leaves the other positions as they are. -/
theorem heldFrom_set_none (start index : Nat) (places : List (Option α)) :
    heldFrom start (places.set index none) =
      (heldFrom start places).filter (·.1 ≠ start + index) := by
  induction places generalizing start index with
  | nil => rfl
  | cons place rest ih =>
      cases index with
      | zero =>
          have hrest : (heldFrom (start + 1) rest).filter (·.1 ≠ start + 0) =
              heldFrom (start + 1) rest := by
            refine List.filter_eq_self.mpr fun entry hentry => ?_
            have hle := le_of_mem_heldFrom hentry
            simp
            omega
          cases place with
          | none => exact hrest.symm
          | some a =>
              rw [heldFrom, List.filter_cons_of_neg (by simp), hrest]
              rfl
      | succ index =>
          have hrest := ih (start + 1) index
          rw [Nat.add_right_comm] at hrest
          cases place with
          | none => exact hrest
          | some a =>
              rw [heldFrom, List.filter_cons_of_pos (by simp)]
              exact congrArg _ hrest

theorem heldFrom_map_none (places : List (Option α)) :
    heldFrom start (places.map fun _ => none) = ([] : List (Nat × α)) := by
  induction places generalizing start with
  | nil => rfl
  | cons place rest ih => exact ih

theorem heldFrom_map_some (start : Nat) (items : List α) :
    heldFrom start (items.map some) = (items.zipIdx start).map fun e => (e.2, e.1) := by
  induction items generalizing start with
  | nil => rfl
  | cons item rest ih => exact congrArg ((start, item) :: ·) (ih (start + 1))

theorem map_snd_heldFrom (start : Nat) (places : List (Option α)) :
    (heldFrom start places).map Prod.snd = places.filterMap id := by
  induction places generalizing start with
  | nil => rfl
  | cons place rest ih =>
      cases place with
      | none => exact ih (start + 1)
      | some a => exact congrArg (a :: ·) (ih (start + 1))

theorem map_toString_heldFrom (places : List (Option α)) :
    (((places.zipIdx start).filter (·.1.isSome)).map fun entry => toString entry.2) =
      (heldFrom start places).map fun entry => toString entry.1 := by
  induction places generalizing start with
  | nil => rfl
  | cons place rest ih =>
      rw [List.zipIdx_cons]
      cases place with
      | none => exact ih
      | some a => exact congrArg (toString start :: ·) ih

end Positions

section Held

variable {ω : Type} {args : CallArgs ω} {index : Nat} {name : String}

/-- A new call holds all its arguments. -/
theorem held_new (classRef : String) (positional : List (Argument ω))
    (named : Sorted.Table String (Argument ω)) :
    (new classRef positional named).held =
      atPositions (positional.zipIdx.map fun e => (e.2, e.1)) ++ atNames named.entries := by
  unfold held new
  rw [heldFrom_map_some]

/-- Arguments are held in the order of their slots. -/
theorem ascending_held (args : CallArgs ω) : Sorted.Ascending args.held := by
  unfold held
  refine List.pairwise_append.mpr ⟨?_, ?_, ?_⟩
  · exact (heldFrom_pairwise 0 args.positional).map _ fun a b => Slot.positional_lt_positional.mpr
  · exact List.Pairwise.map _ (fun a b => Slot.named_lt_named.mpr) args.named.ascending
  · intro a ha b hb
    obtain ⟨entry, -, rfl⟩ := List.mem_map.mp ha
    obtain ⟨entry', -, rfl⟩ := List.mem_map.mp hb
    exact Slot.positional_lt_named _ _

/-- As many arguments remain as are held. -/
theorem remaining_eq_length_held (args : CallArgs ω) : args.remaining = args.held.length := by
  unfold remaining held
  rw [← map_snd_heldFrom 0, List.length_append, List.length_map, atPositions, atNames,
    List.length_map, List.length_map]
  rfl

/-- Leftovers are spelled like the slots that hold them. -/
theorem leftovers_eq (args : CallArgs ω) : args.leftovers = args.held.map fun e => e.1.text := by
  unfold leftovers held
  rw [map_toString_heldFrom, List.map_append, atPositions, atNames, List.map_map, List.map_map]
  rfl

/-- The spellings of what is left: positions that ascend, then names that ascend. -/
theorem exists_leftovers (args : CallArgs ω) :
    ∃ (indices : List Nat) (names : List String),
      indices.Pairwise (· < ·) ∧ names.Pairwise (· < ·) ∧
      args.held.map Prod.fst = indices.map .positional ++ names.map .named ∧
      args.leftovers = indices.map toString ++ names := by
  refine ⟨(heldFrom 0 args.positional).map Prod.fst, args.named.keys, ?_,
    args.named.ascending_keys, ?_, ?_⟩
  · exact (heldFrom_pairwise 0 args.positional).map _ fun _ _ h => h
  · unfold held atPositions atNames Sorted.Table.keys
    rw [List.map_append, List.map_map, List.map_map, List.map_map, List.map_map]
    rfl
  · unfold leftovers
    rw [map_toString_heldFrom, List.map_map]
    rfl

/-- The end of a binding takes nothing. -/
theorem finish_run_eq (args : CallArgs ω) : finish.run args = (if args.leftovers.isEmpty then .ok ()
    else .error (.unexpected args.classRef args.leftovers), args) := by
  change ((do
    if !args.leftovers.isEmpty then throw (.unexpected args.classRef args.leftovers) :
    Binding ω Unit).run args) = _
  cases args.leftovers.isEmpty <;> rfl

/-- A call is finished when nothing remains; else everything that does is named. -/
theorem finish_run (args : CallArgs ω) :
    (finish.run args).1 = if args.remaining = 0 then .ok ()
      else .error (.unexpected args.classRef args.leftovers) := by
  rw [finish_run_eq, leftovers_eq, remaining_eq_length_held]
  cases args.held with
  | nil => rfl
  | cons entry rest => rfl

theorem filter_atPositions (p : Slot → Bool) (entries : List (Nat × Argument ω)) :
    (atPositions entries).filter (p ·.1) = atPositions (entries.filter (p <| .positional ·.1)) :=
  List.filter_map

theorem filter_atNames (p : Slot → Bool) (entries : List (String × Argument ω)) :
    (atNames entries).filter (p ·.1) = atNames (entries.filter (p <| .named ·.1)) :=
  List.filter_map

theorem filter_held (p : Slot → Bool) (args : CallArgs ω) :
    args.held.filter (p ·.1) =
      atPositions ((heldFrom 0 args.positional).filter (p <| .positional ·.1)) ++
        atNames (args.named.entries.filter (p <| .named ·.1)) := by
  rw [held, List.filter_append, filter_atPositions, filter_atNames]

/-- Of a parameter at most one argument is held by position, and at most one by name. -/
theorem held_filter_isParameter (args : CallArgs ω) (index : Nat) (name : String) :
    args.held.filter (·.1.isParameter index name) =
      args.positional[index]?.join.toList.map (.positional index, ·) ++
        (args.named.find? name).toList.map (.named name, ·) := by
  have hpositions := heldFrom_filter_eq 0 index args.positional
  rw [Nat.zero_add] at hpositions
  rw [filter_held]
  simp only [Slot.isParameter, Slot.positional.injEq, reduceCtorEq, Slot.named.injEq,
    decide_false, Bool.or_false, Bool.false_or]
  rw [hpositions, Sorted.filter_key_eq args.named.nodup_keys, atPositions, atNames, List.map_map,
    List.map_map]
  rfl

/-- A parameter that is taken is no longer held. -/
theorem held_without (args : CallArgs ω) (index : Nat) (name : String) :
    (args.without index name).held = args.held.filter fun e => !e.1.isParameter index name := by
  have hpositions := heldFrom_set_none 0 index args.positional
  rw [Nat.zero_add] at hpositions
  rw [filter_held fun slot => !slot.isParameter index name]
  simp only [Slot.isParameter, Slot.positional.injEq, reduceCtorEq, Slot.named.injEq,
    decide_false, Bool.or_false, Bool.false_or]
  unfold held without
  dsimp only
  rw [hpositions, Sorted.Table.entries_erase, Sorted.erase]
  simp only [decide_not]

theorem held_erase (args : CallArgs ω) (name : String) :
    ({ args with named := args.named.erase name } : CallArgs ω).held =
      args.held.filter fun e => !decide (e.1 = .named name) := by
  rw [filter_held fun slot => !decide (slot = .named name)]
  simp only [reduceCtorEq, Slot.named.injEq, decide_false, Bool.not_false, List.filter_true]
  unfold held
  dsimp only
  rw [Sorted.Table.entries_erase, Sorted.erase]
  simp only [decide_not]

/-- Taking the rest takes all positional arguments that are left. -/
theorem takeRest_run (args : CallArgs ω) :
    takeRest.run args = (.ok (args.positional.filterMap id), args.withoutPositions) := rfl

/-- Without its positions a call holds what is named. -/
theorem held_withoutPositions (args : CallArgs ω) :
    args.withoutPositions.held = args.held.filter fun e => !e.1.index?.isSome := by
  rw [filter_held fun slot => !slot.index?.isSome]
  simp only [Slot.index?, Option.isSome_some, Option.isSome_none, Bool.not_true, Bool.not_false,
    List.filter_true, List.filter_false]
  unfold held withoutPositions
  dsimp only
  rw [heldFrom_map_none]

theorem leftovers_withoutPositions (args : CallArgs ω) :
    args.withoutPositions.leftovers = args.named.keys := by
  rw [leftovers_eq, held, withoutPositions, heldFrom_map_none, atNames, List.map_append,
    List.map_map]
  rfl

end Held

end CallArgs

end Hyperparams

import Mathlib.Data.List.DropRight
import Hyperparams.Log.Service

/-!
# The memory of a log

A memory that is full forgets its oldest event for each new one. So after any calls it holds the
last events, up to its capacity, of those that were logged since it was cleared and that pass its
level.
-/

namespace Hyperparams.Log

section Keeping

variable {α : Type} {n : Nat} {xs : List α}

/-- What is kept of what is kept, with more at the end, is what is kept of all. -/
theorem rtake_rtake_append (n : Nat) (xs : List α) (x : α) :
    (xs.rtake n ++ [x]).rtake n = (xs ++ [x]).rtake n := by
  cases n with
  | zero => simp
  | succ n =>
      rw [List.rtake_concat_succ, List.rtake_concat_succ]
      congr 1
      unfold List.rtake
      rw [List.length_drop, List.drop_drop]
      congr 1
      omega

theorem length_rtake (n : Nat) (xs : List α) : (xs.rtake n).length = min n xs.length := by
  rw [List.rtake, List.length_drop]
  omega

theorem rtake_of_length_le (h : xs.length ≤ n) : xs.rtake n = xs := by
  rw [List.rtake, Nat.sub_eq_zero_of_le h, List.drop_zero]

theorem rtake_min_length (n : Nat) (xs : List α) : xs.rtake (min n xs.length) = xs.rtake n := by
  unfold List.rtake
  congr 1
  omega

end Keeping

/-- A level passes itself and what stands before it, from errors to what helps in debugging. -/
theorem Level.passes_iff {most level : Level} : most.passes level = true ↔
    level = most ∨ [level, most].Sublist [.error, .warning, .info, .debug] := by
  cases most <;> cases level <;> decide

namespace Memory

/-- What a service with a memory is asked to do. -/
inductive Call where
  | log (event : Event)
  | clear

def Call.event? : Call → Option Event
  | log event => some event
  | clear => none

def step (m : Memory) : Call → Memory
  | .log event => m.log event
  | .clear => m.clear

def run (m : Memory) (calls : List Call) : Memory :=
  calls.foldl step m

/-- The events of the calls behind the last one that clears. -/
def sinceClear (calls : List Call) : List Event :=
  (calls.rtakeWhile (·.event?.isSome)).filterMap Call.event?

/-- Those of them that pass a level. -/
def passed (level : Level) (calls : List Call) : List Event :=
  (sinceClear calls).filter (level.passes ·.level)

variable {level : Level} {calls : List Call} {m : Memory}

/-- An event that passes the level comes behind those before it. -/
theorem passed_log (level : Level) (calls : List Call) (event : Event) :
    passed level (calls ++ [.log event]) =
      if level.passes event.level then passed level calls ++ [event] else passed level calls := by
  have hsince : sinceClear (calls ++ [.log event]) = sinceClear calls ++ [event] := by
    rw [sinceClear, List.rtakeWhile_concat_pos _ _ _ rfl, List.filterMap_append]
    rfl
  rw [passed, hsince, List.filter_append]
  split
  next hpasses => simp [passed, hpasses]
  next hpasses => simp [passed, hpasses]

/-- After clearing, nothing that came before counts. -/
theorem passed_clear (level : Level) (calls : List Call) :
    passed level (calls ++ [.clear]) = [] := by
  rw [passed, sinceClear, List.rtakeWhile_concat_neg _ _ _ Bool.false_ne_true]
  rfl

/-- Logging keeps the last events that fit. -/
theorem toList_log (hsize : m.events.size ≤ capacity) (event : Event) :
    (m.log event).events.toList =
      if m.level.passes event.level then (m.events.toList ++ [event]).rtake capacity
      else m.events.toList := by
  have hpos : 0 < capacity := by decide
  unfold log
  split
  · split
    next hroom =>
      rw [Array.toList_push, rtake_of_length_le]
      simpa using Nat.succ_le_of_lt hroom
    next hfull =>
      have hlength : (m.events.toList ++ [event]).length - capacity = 1 := by
        simp only [List.length_append, Array.length_toList, List.length_singleton]
        omega
      have hforgets : (m.events.extract 1 m.events.size).toList = m.events.toList.drop 1 := by
        rw [Array.toList_extract, List.extract_eq_take_drop, List.take_of_length_le]
        rw [List.length_drop, Array.length_toList]
      rw [Array.toList_push, hforgets, List.rtake, hlength, List.drop_append_of_le_length]
      rw [Array.length_toList]
      omega
  · rfl

theorem level_step (m : Memory) (call : Call) : (m.step call).level = m.level := by
  cases call with
  | log event =>
      change (m.log event).level = m.level
      unfold log
      split
      · split <;> rfl
      · rfl
  | clear => rfl

/-- What a memory of some level holds after some calls. -/
structure Holds (level : Level) (calls : List Call) (m : Memory) : Prop where
  level_eq : m.level = level
  toList_eq : m.events.toList = (passed level calls).rtake capacity

theorem Holds.size_le (h : Holds level calls m) : m.events.size ≤ capacity := by
  rw [← Array.length_toList, h.toList_eq, length_rtake]
  exact Nat.min_le_left _ _

/-- Every call keeps what a memory holds. -/
theorem Holds.step (h : Holds level calls m) (call : Call) :
    Holds level (calls ++ [call]) (m.step call) where
  level_eq := (level_step m call).trans h.level_eq
  toList_eq := by
    cases call with
    | log event =>
        rw [passed_log, Memory.step, toList_log h.size_le, h.level_eq, h.toList_eq]
        split
        · exact rtake_rtake_append capacity (passed level calls) event
        · rfl
    | clear =>
        rw [passed_clear]
        rfl

/-- A memory that was empty at first holds the last events that have passed. -/
theorem holds_run (level : Level) (calls : List Call) :
    Holds level calls (run { level } calls) := by
  induction calls using List.reverseRecOn with
  | nil =>
      have hnone : passed level [] = [] := rfl
      exact ⟨rfl, by rw [hnone, rtake_of_length_le (Nat.zero_le _)]; rfl⟩
  | append_singleton calls call ih =>
      rw [run, List.foldl_append]
      exact ih.step call

/-- After any calls a memory that was empty at first holds the last events that have passed its
level since it was cleared, in the order in which they were logged, and never more than fit. The
errors, the warnings and the events with a code are those among them. -/
theorem run_keeps_last (level : Level) (calls : List Call) :
    let m := run { level } calls
    let kept := (passed level calls).rtake (min capacity (passed level calls).length)
    m.events.toList = kept ∧ m.events.size = min capacity (passed level calls).length ∧
      m.events.size ≤ capacity ∧ m.errors = kept.filter (·.level = .error) ∧
      m.warnings = kept.filter (·.level = .warning) ∧
      ∀ code, m.withCode code = kept.filter (·.code = code) := by
  intro m kept
  have hholds := holds_run level calls
  have hkept : m.events.toList = kept :=
    hholds.toList_eq.trans (rtake_min_length capacity (passed level calls)).symm
  have hsize : m.events.size = min capacity (passed level calls).length := by
    rw [← Array.length_toList, hholds.toList_eq, length_rtake]
  refine ⟨hkept, hsize, hholds.size_le, ?_, ?_, fun code => ?_⟩
  · rw [errors, hkept]
  · rw [warnings, hkept]
  · rw [withCode, hkept]

end Memory

end Hyperparams.Log

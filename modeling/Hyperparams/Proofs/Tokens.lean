import Hyperparams.Proofs.Outcomes
import Hyperparams.Proofs.Table
import Hyperparams.Tokenizer

/-!
# Tokens of pairs

Tokens that come in pairs of a flag and a value are accepted exactly when every pair is well formed
by itself and there are not too many. Then the arguments are the inferred values by key.
-/

namespace Hyperparams

/-- The tokens that give values to keys. -/
def flagTokens (pairs : List (String × String)) : List String :=
  pairs.flatMap fun (key, raw) => ["--" ++ key, raw]

/-- Whether a key and a raw value can be given. -/
structure WellFormedPair (pair : String × String) : Prop where
  nonempty : pair.1 ≠ ""
  key_short : pair.1.utf8ByteSize ≤ Limits.keyLength
  value_short : pair.2.utf8ByteSize ≤ Limits.valueLength

/-- The entries that pairs stand for. -/
def inferred (pairs : List (String × String)) : List (String × Value) :=
  pairs.map fun (key, raw) => (key, Value.infer raw)

/-- The same pairs, and those of one key in the same order. -/
def Rearranged (pairs pairs' : List (String × String)) : Prop :=
  ∀ key, pairs.filter (·.1 = key) = pairs'.filter (·.1 = key)

section Flags

variable {token : String}

theorem toList_flag (name : String) : ("--" ++ name).toList = '-' :: '-' :: name.toList := by
  simp

/-- A token looks like a flag when it begins with two dashes, whatever follows them. -/
theorem isFlag_eq_true_iff : Tokenized.isFlag token = true ↔ ∃ rest, token = "--" ++ rest := by
  rw [Tokenized.isFlag, List.isPrefixOf_iff_prefix]
  constructor
  · rintro ⟨rest, hrest⟩
    refine ⟨String.ofList rest, String.toList_injective ?_⟩
    rw [toList_flag, String.toList_ofList, ← hrest]
    rfl
  · rintro ⟨rest, rfl⟩
    exact ⟨rest.toList, (toList_flag rest).symm⟩

end Flags

section Rearranging

variable {pairs pairs' : List (String × String)}

/-- Rearranging pairs changes their order at most. -/
theorem Rearranged.perm (h : Rearranged pairs pairs') : pairs.Perm pairs' := by
  rw [List.perm_iff_count]
  intro pair
  have hcount : ∀ l : List (String × String),
      l.count pair = (l.filter (·.1 = pair.1)).count pair := by
    intro l
    rw [List.count_filter]
    exact decide_eq_true rfl
  rw [hcount pairs, hcount pairs', h]

/-- What is bound in the end does not depend on how keys are interleaved. -/
theorem Rearranged.get?_eq (h : Rearranged pairs pairs') (key : String) :
    (Arguments.ofList (inferred pairs)).get? key =
      (Arguments.ofList (inferred pairs')).get? key := by
  have hfilter : ∀ l : List (String × String), (inferred l).filter (·.1 = key) =
      inferred (l.filter (·.1 = key)) := by
    intro l
    unfold inferred
    rw [List.filter_map]
    rfl
  rw [Arguments.get?_ofList, Arguments.get?_ofList, hfilter, hfilter, h key]

end Rearranging

section Scan

open Tokenized

variable {prefs : Preferences.Tokenizing} {pairs : List (String × String)} {key : String}

/-- The key of a flag is what follows the dashes. -/
theorem key?_flag_eq_ok_iff {found : String} {position : Nat} :
    key? ("--" ++ key) position = .ok found ↔
      key ≠ "" ∧ key.utf8ByteSize ≤ Limits.keyLength ∧ found = key := by
  have hchars : ("--" ++ key).toList = '-' :: '-' :: key.toList := by simp
  unfold key?
  rw [hchars]
  simp only [String.ofList_toList, String.isEmpty_iff]
  by_cases hempty : key = ""
  · simp [hempty]
  · by_cases hlong : Limits.keyLength < key.utf8ByteSize
    · simp [hempty, hlong, Nat.not_le.mpr hlong]
    · simp [hempty, hlong, Nat.not_lt.mp hlong, eq_comm]

/-- Tokens of pairs are taken if each pair is well formed, and then give the inferred values. -/
theorem scan_flagTokens (prefs : Preferences.Tokenizing) (pairs : List (String × String))
    (t : Tokenized) (position : Nat) :
    ((t.scan prefs position (flagTokens pairs)).2.result = .ok () ↔
      ∀ pair ∈ pairs, WellFormedPair pair) ∧
    ((∀ pair ∈ pairs, WellFormedPair pair) →
      (t.scan prefs position (flagTokens pairs)).1.args =
        (inferred pairs).foldl (fun args entry => args.insert entry.1 entry.2) t.args) := by
  -- neither the position nor what was taken before decides whether the rest is well formed
  induction pairs generalizing t position with
  | nil => exact ⟨by simp [flagTokens, scan], fun _ => rfl⟩
  | cons pair rest ih =>
      obtain ⟨key, raw⟩ := pair
      have htokens : flagTokens ((key, raw) :: rest) =
          ("--" ++ key) :: raw :: flagTokens rest := rfl
      rw [htokens, scan]
      split
      next e hkey =>
        have hbad : ¬ WellFormedPair (key, raw) := by
          intro hgood
          rw [key?_flag_eq_ok_iff.mpr ⟨hgood.nonempty, hgood.key_short, rfl⟩] at hkey
          cases hkey
        exact ⟨iff_of_false (by simp) fun h => hbad (h _ List.mem_cons_self),
          fun h => absurd (h _ List.mem_cons_self) hbad⟩
      next found hkey =>
        obtain ⟨hnonempty, hshort, rfl⟩ := key?_flag_eq_ok_iff.mp hkey
        dsimp only
        split
        next hlong =>
          have hbad : ¬ WellFormedPair (found, raw) :=
            fun h => absurd hlong (Nat.not_lt.mpr h.value_short)
          exact ⟨iff_of_false (by simp) fun h => hbad (h _ List.mem_cons_self),
            fun h => absurd (h _ List.mem_cons_self) hbad⟩
        next hvalue =>
          have hgood : WellFormedPair (found, raw) :=
            ⟨hnonempty, hshort, Nat.not_lt.mp hvalue⟩
          rw [List.forall_mem_cons, and_iff_right hgood]
          exact ih (t.accept prefs found raw position) (position + 2)

theorem length_flagTokens (pairs : List (String × String)) :
    (flagTokens pairs).length = 2 * pairs.length := by
  induction pairs with
  | nil => rfl
  | cons pair rest ih =>
      change (flagTokens rest).length + 1 + 1 = 2 * (rest.length + 1)
      omega

/-- When the tokens of pairs are accepted. -/
def Tokenizable (pairs : List (String × String)) : Prop :=
  2 * pairs.length ≤ Limits.tokenCount ∧ ∀ pair ∈ pairs, WellFormedPair pair

/-- The order of pairs does not matter to whether they are taken. -/
theorem Tokenizable.of_perm {pairs' : List (String × String)} (h : pairs.Perm pairs')
    (htokens : Tokenizable pairs) : Tokenizable pairs' :=
  ⟨h.length_eq ▸ htokens.1, fun pair hpair => htokens.2 pair (h.mem_iff.mpr hpair)⟩

/-- The arguments of pairs bind keys in the order of the pairs. -/
theorem tokenize_flagTokens_ok_iff {args : Arguments} :
    (∃ t, (tokenize prefs (flagTokens pairs)).result = .ok t ∧ t.args = args) ↔
      Tokenizable pairs ∧ args = Arguments.ofList (inferred pairs) := by
  unfold tokenize Tokenizer.run Tokenizable
  rw [length_flagTokens]
  dsimp only
  split
  next hlong =>
    refine iff_of_false ?_ fun h => absurd hlong (Nat.not_lt.mpr h.1.1)
    rintro ⟨t, h, -⟩
    cases h
  next hshort =>
    obtain ⟨hok, hargs⟩ := scan_flagTokens prefs pairs
      { metrics := { tokenCount := 2 * pairs.length } } 0
    simp only [Log.Traced.result_bind]
    constructor
    · rintro ⟨t, h, rfl⟩
      obtain ⟨⟨⟩, hscan, hrest⟩ := Outcome.bind_eq_ok_iff.mp h
      cases hrest
      have hpairs := hok.mp hscan
      exact ⟨⟨Nat.not_lt.mp hshort, hpairs⟩, hargs hpairs⟩
    · rintro ⟨⟨-, hpairs⟩, rfl⟩
      exact ⟨_, Outcome.bind_eq_ok_iff.mpr ⟨_, hok.mpr hpairs, rfl⟩, hargs hpairs⟩

end Scan

end Hyperparams

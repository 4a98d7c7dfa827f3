import Hyperparams.Proofs.Tokenizing

/-!
# Where tokens stop being well formed

Tokens are refused for their number, or for the first pair that is not well formed. The tokenizer
stops there, so what it has counted is what the pairs before have to say. A run begins with nothing
counted, whatever the runs before it came to.
-/

namespace Hyperparams

open Tokenized

/-- Why a token is no flag. Its position is counted among all tokens. -/
inductive NoFlag (position : Nat) : String → TokenError → Prop
  | missingFlagPrefix {token : String} (h : ∀ key, token ≠ "--" ++ key) :
      NoFlag position token (.missingFlagPrefix token position)
  | emptyKey : NoFlag position "--" (.emptyKey position)
  | keyTooLong {key : String} (h : Limits.keyLength < key.utf8ByteSize) :
      NoFlag position ("--" ++ key) (.keyTooLong key)

/-- Why some tokens, the first of them at a position, do not begin with a well-formed pair. -/
inductive IllFormed (position : Nat) : List String → TokenError → Prop
  | noFlag {token : String} {rest : List String} {e : TokenError}
      (h : NoFlag position token e) : IllFormed position (token :: rest) e
  | danglingFlag {key : String} (hnonempty : key ≠ "")
      (hkey : key.utf8ByteSize ≤ Limits.keyLength) :
      IllFormed position ["--" ++ key] (.danglingFlag key position)
  | valueTooLong {key raw : String} {rest : List String} (hnonempty : key ≠ "")
      (hkey : key.utf8ByteSize ≤ Limits.keyLength)
      (hvalue : Limits.valueLength < raw.utf8ByteSize) :
      IllFormed position (("--" ++ key) :: raw :: rest) (.valueTooLong key raw.utf8ByteSize)

/-- Why tokens are refused, and which pairs come before: none, if there are too many tokens, and
else the well-formed pairs in front of the first that is not. -/
inductive RefusedAfter (tokens : List String) : List (String × String) → TokenError → Prop
  | tooManyTokens (h : Limits.tokenCount < tokens.length) :
      RefusedAfter tokens [] (.tooManyTokens tokens.length)
  | illFormed {before : List (String × String)} {rest : List String} {e : TokenError}
      (hfew : tokens.length ≤ Limits.tokenCount) (htokens : flagTokens before ++ rest = tokens)
      (hbefore : ∀ pair ∈ before, WellFormedPair pair) (h : IllFormed (2 * before.length) rest e) :
      RefusedAfter tokens before e

section Flags

variable {token key : String} {position : Nat} {e : TokenError}

/-- A flag is refused if its name is empty or too long. -/
theorem key?_flag (key : String) (position : Nat) :
    key? ("--" ++ key) position = if key.isEmpty then .error (.emptyKey position)
      else if Limits.keyLength < key.utf8ByteSize then .error (.keyTooLong key) else .ok key := by
  have hchars : ("--" ++ key).toList = '-' :: '-' :: key.toList := by simp
  unfold key?
  rw [hchars]
  simp only [String.ofList_toList]

/-- A token that is no flag is refused at its position. -/
theorem key?_of_not_flag (h : ∀ key, token ≠ "--" ++ key) :
    key? token position = .error (.missingFlagPrefix token position) := by
  unfold key?
  split
  next cs hchars =>
    refine absurd (String.toList_injective ?_) (h (String.ofList cs))
    rw [hchars]
    simp
  next => rfl

/-- A token is refused by itself exactly if it is no flag. -/
theorem key?_eq_error_iff : key? token position = .error e ↔ NoFlag position token e := by
  constructor
  · intro h
    by_cases hflag : ∃ key, token = "--" ++ key
    · obtain ⟨key, rfl⟩ := hflag
      rw [key?_flag] at h
      split at h
      next hempty =>
        cases h
        rw [String.isEmpty_iff.mp hempty]
        exact .emptyKey
      next =>
        split at h
        next hlong =>
          cases h
          exact .keyTooLong hlong
        next => cases h
    · rw [not_exists] at hflag
      rw [key?_of_not_flag hflag] at h
      cases h
      exact .missingFlagPrefix hflag
  · intro h
    cases h with
    | missingFlagPrefix h => exact key?_of_not_flag h
    | emptyKey => exact key?_flag "" position
    | @keyTooLong key hlong =>
        have hnonempty : key.isEmpty = false := by
          rw [Bool.eq_false_iff, Ne, String.isEmpty_iff]
          rintro rfl
          cases hlong
        rw [key?_flag, hnonempty, if_neg Bool.false_ne_true, if_pos hlong]

end Flags

section Scan

variable {prefs : Preferences.Tokenizing} {tokens : List String} {before : List (String × String)}
  {t : Tokenized} {token : String} {rest : List String} {position : Nat} {e : TokenError}

def Tokenized.counting (t : Tokenized) (n : Nat) : Tokenized :=
  { t with metrics := { t.metrics with tokenCount := n } }

/-- What pairs add does not depend on the number of tokens. -/
theorem acceptAll_counting (prefs : Preferences.Tokenizing) (t : Tokenized) (n position : Nat)
    (pairs : List (String × String)) :
    (t.counting n).acceptAll prefs position pairs =
      (t.acceptAll prefs position pairs).counting n := by
  induction pairs generalizing t position with
  | nil => rfl
  | cons pair rest ih => exact ih (t.accept prefs pair.1 pair.2 position) (position + 2)

/-- Well-formed pairs in front are taken, and the rest is gone over from where they end. -/
theorem scan_append (prefs : Preferences.Tokenizing) (t : Tokenized) (position : Nat)
    (hbefore : ∀ pair ∈ before, WellFormedPair pair) (rest : List String) :
    let behind := (t.acceptAll prefs position before).scan prefs
      (position + 2 * before.length) rest
    (t.scan prefs position (flagTokens before ++ rest)).1 = behind.1 ∧
      (t.scan prefs position (flagTokens before ++ rest)).2.result = behind.2.result := by
  induction before generalizing t position with
  | nil => exact ⟨rfl, rfl⟩
  | cons pair before ih =>
      obtain ⟨key, raw⟩ := pair
      obtain ⟨⟨hnonempty, hkey, hvalue⟩, hrest⟩ := List.forall_mem_cons.mp hbefore
      have htokens : flagTokens ((key, raw) :: before) ++ rest =
          ("--" ++ key) :: raw :: (flagTokens before ++ rest) := rfl
      have hstep := ih (t.accept prefs key raw position) (position + 2) hrest
      rw [htokens, scan, key?_flag_eq_ok_iff.mpr ⟨hnonempty, hkey, rfl⟩]
      dsimp only
      rw [if_neg (Nat.not_lt.mpr hvalue), List.length_cons, Nat.mul_add, ← Nat.add_assoc,
        Nat.add_right_comm]
      exact hstep

/-- A pair that is not well formed ends the run. -/
theorem scan_illFormed (prefs : Preferences.Tokenizing) (t : Tokenized)
    (h : IllFormed position tokens e) :
    (t.scan prefs position tokens).1 = t ∧ (t.scan prefs position tokens).2.result = .error e := by
  cases h with
  | noFlag h =>
      rw [scan, key?_eq_error_iff.mpr h]
      exact ⟨rfl, rfl⟩
  | danglingFlag hnonempty hkey =>
      rw [scan, key?_flag_eq_ok_iff.mpr ⟨hnonempty, hkey, rfl⟩]
      exact ⟨rfl, rfl⟩
  | valueTooLong hnonempty hkey hvalue =>
      rw [scan, key?_flag_eq_ok_iff.mpr ⟨hnonempty, hkey, rfl⟩]
      dsimp only
      rw [if_pos hvalue]
      exact ⟨rfl, rfl⟩

/-- In front of the place where a run ends with an error are well-formed pairs. -/
theorem exists_illFormed_of_scan (h : (t.scan prefs position tokens).2.result = .error e) :
    ∃ before rest, flagTokens before ++ rest = tokens ∧
      (∀ pair ∈ before, WellFormedPair pair) ∧ IllFormed (position + 2 * before.length) rest e := by
  fun_induction scan prefs t position tokens with
  | case1 => cases h
  | case2 t position token rest e' hkey =>
      cases h
      exact ⟨[], token :: rest, rfl, List.forall_mem_nil _, .noFlag (key?_eq_error_iff.mp hkey)⟩
  | case3 t position token key hfound =>
      have he : TokenError.danglingFlag key position = e := Except.error.inj h
      subst he
      obtain rfl := eq_flag_of_key? hfound
      obtain ⟨hnonempty, hkey, -⟩ := key?_flag_eq_ok_iff.mp hfound
      exact ⟨[], _, rfl, List.forall_mem_nil _, .danglingFlag hnonempty hkey⟩
  | case4 t position token key hfound raw rest hvalue =>
      have he : TokenError.valueTooLong key raw.utf8ByteSize = e := Except.error.inj h
      subst he
      obtain rfl := eq_flag_of_key? hfound
      obtain ⟨hnonempty, hkey, -⟩ := key?_flag_eq_ok_iff.mp hfound
      exact ⟨[], _, rfl, List.forall_mem_nil _, .valueTooLong hnonempty hkey hvalue⟩
  | case5 t position token key hfound raw rest hvalue t' outcome hscan ih =>
      obtain rfl := eq_flag_of_key? hfound
      obtain ⟨hnonempty, hkey, -⟩ := key?_flag_eq_ok_iff.mp hfound
      rw [hscan] at ih
      obtain ⟨before, rest, rfl, hbefore, hrest⟩ := ih h
      refine ⟨(key, raw) :: before, rest, rfl,
        List.forall_mem_cons.mpr ⟨⟨hnonempty, hkey, Nat.not_lt.mp hvalue⟩, hbefore⟩, ?_⟩
      rw [List.length_cons, Nat.mul_add, Nat.add_comm (2 * before.length), ← Nat.add_assoc]
      exact hrest

end Scan

section Run

variable {tokens : List String} {before : List (String × String)} {e : TokenError}

def Tokenizer.after (tokenizer : Tokenizer) (earlier : List (List String)) : Tokenizer :=
  earlier.foldl (fun tokenizer tokens => (tokenizer.run tokens).1) tokenizer

/-- A run leaves the preferences as they are. -/
theorem preferences_run (tokenizer : Tokenizer) (tokens : List String) :
    (tokenizer.run tokens).1.preferences = tokenizer.preferences := by
  unfold Tokenizer.run
  dsimp only
  split <;> rfl

theorem preferences_after (tokenizer : Tokenizer) (earlier : List (List String)) :
    (tokenizer.after earlier).preferences = tokenizer.preferences := by
  unfold Tokenizer.after
  induction earlier generalizing tokenizer with
  | nil => rfl
  | cons tokens rest ih => rw [List.foldl_cons, ih, preferences_run]

/-- A run only depends on the preferences. -/
theorem run_congr {tokenizer tokenizer' : Tokenizer}
    (h : tokenizer.preferences = tokenizer'.preferences) (tokens : List String) :
    tokenizer.run tokens = tokenizer'.run tokens := by
  cases tokenizer
  cases tokenizer'
  cases h
  rfl

/-- Too many tokens are refused before any of them is taken. -/
theorem run_of_many (tokenizer : Tokenizer) (hmany : Limits.tokenCount < tokens.length) :
    (tokenizer.run tokens).1.metrics = { tokenCount := tokens.length } ∧
      (tokenizer.run tokens).2.result = .error (.tooManyTokens tokens.length) := by
  unfold Tokenizer.run
  dsimp only
  rw [if_pos hmany]
  exact ⟨rfl, rfl⟩

/-- A run over tokens that are not too many begins with nothing gathered and goes over them once. -/
theorem run_of_few (tokenizer : Tokenizer) (hfew : tokens.length ≤ Limits.tokenCount) :
    let scanned := (({} : Tokenized).counting tokens.length).scan tokenizer.preferences 0 tokens
    (tokenizer.run tokens).1.metrics = scanned.1.metrics ∧
      (tokenizer.run tokens).2.result = (fun _ => scanned.1) <$> scanned.2.result := by
  have hstart : ({ metrics := { tokenCount := tokens.length } } : Tokenized) =
      ({} : Tokenized).counting tokens.length := rfl
  unfold Tokenizer.run
  rw [hstart]
  dsimp only
  rw [if_neg (Nat.not_lt.mpr hfew)]
  refine ⟨rfl, ?_⟩
  simp only [Log.Traced.result_bind]
  cases (scan tokenizer.preferences _ 0 tokens).2.result <;> rfl

/-- Tokens that are refused are refused for their number or for their first pair that is not well
formed. -/
theorem exists_refusedAfter {tokenizer : Tokenizer}
    (h : (tokenizer.run tokens).2.result = .error e) : ∃ before, RefusedAfter tokens before e := by
  by_cases hmany : Limits.tokenCount < tokens.length
  · cases (run_of_many tokenizer hmany).2.symm.trans h
    exact ⟨[], .tooManyTokens hmany⟩
  · have hfew := Nat.not_lt.mp hmany
    rw [(run_of_few tokenizer hfew).2, Outcome.map_eq_error_iff] at h
    obtain ⟨before, rest, htokens, hbefore, hrest⟩ := exists_illFormed_of_scan h
    rw [Nat.zero_add] at hrest
    exact ⟨before, .illFormed hfew htokens hbefore hrest⟩

/-- Then only the pairs in front of that place are counted. -/
theorem run_of_refusedAfter (tokenizer : Tokenizer) (h : RefusedAfter tokens before e) :
    (tokenizer.run tokens).2.result = .error e ∧
      (tokenizer.run tokens).1.metrics = ((({} : Tokenized).acceptAll tokenizer.preferences 0
        before).counting tokens.length).metrics := by
  cases h with
  | tooManyTokens hmany =>
      obtain ⟨hmetrics, hresult⟩ := run_of_many tokenizer hmany
      exact ⟨hresult, hmetrics⟩
  | illFormed hfew htokens hbefore hrest =>
      obtain ⟨hmetrics, hresult⟩ := run_of_few tokenizer hfew
      obtain ⟨hgathered, hend⟩ := scan_append tokenizer.preferences
        (({} : Tokenized).counting tokens.length) 0 hbefore _
      rw [← Nat.zero_add (2 * before.length)] at hrest
      obtain ⟨hstopped, herror⟩ := scan_illFormed tokenizer.preferences _ hrest
      rw [htokens, hstopped, acceptAll_counting] at hgathered
      rw [htokens, herror] at hend
      rw [hmetrics, hresult, hgathered, hend]
      exact ⟨rfl, rfl⟩

theorem RefusedAfter.tokenizable (h : RefusedAfter tokens before e) : Tokenizable before := by
  cases h with
  | tooManyTokens _ => exact ⟨Nat.zero_le _, List.forall_mem_nil _⟩
  | illFormed hfew htokens hbefore _ =>
      refine ⟨le_trans ?_ hfew, hbefore⟩
      rw [← length_flagTokens, ← htokens, List.length_append]
      exact Nat.le_add_right _ _

/-- Well-formed pairs that are not too many are taken. -/
theorem run_flagTokens (tokenizer : Tokenizer) (hpairs : Tokenizable before) :
    (tokenizer.run (flagTokens before)).2.result = .ok ((({} : Tokenized).acceptAll
      tokenizer.preferences 0 before).counting (flagTokens before).length) := by
  obtain ⟨hfew, hbefore⟩ := hpairs
  rw [← length_flagTokens] at hfew
  have hscan := scan_append tokenizer.preferences
    (({} : Tokenized).counting (flagTokens before).length) 0 hbefore []
  rw [List.append_nil, acceptAll_counting] at hscan
  rw [(run_of_few tokenizer hfew).2, hscan.1, hscan.2]
  rfl

/-- Whatever a tokenizer did before, it refuses tokens for their number or for their first pair that
is not well formed, and then it has counted what it counts when it takes the pairs in front of that
place, the number of tokens apart. Every run is that of a new tokenizer with the same
preferences. -/
theorem refusals_located (tokenizer : Tokenizer) (earlier : List (List String))
    (tokens : List String) :
    let again := tokenizer.after earlier
    (∀ e, (again.run tokens).2.result = .error e ↔ ∃ before, RefusedAfter tokens before e) ∧
      (∀ e before, RefusedAfter tokens before e → ∃ t,
        (again.run (flagTokens before)).2.result = .ok t ∧
          (again.run tokens).1.metrics = { t.metrics with tokenCount := tokens.length }) ∧
        again.run tokens = Tokenizer.run { preferences := tokenizer.preferences } tokens := by
  intro again
  refine ⟨fun e => ⟨exists_refusedAfter, ?_⟩, fun e before h => ?_, ?_⟩
  · rintro ⟨before, h⟩
    exact (run_of_refusedAfter again h).1
  · exact ⟨_, run_flagTokens again h.tokenizable, (run_of_refusedAfter again h).2⟩
  · exact run_congr (preferences_after tokenizer earlier) tokens

/-- A key that comes again with a value like a flag, and then a flag without a key. -/
def interruptedPairs : List (String × String) :=
  [("lr", "1"), ("lr", "--big")]

theorem refusedAfter_interruptedPairs :
    RefusedAfter (flagTokens interruptedPairs ++ ["--", "2"]) interruptedPairs (.emptyKey 4) := by
  refine .illFormed (by decide) rfl ?_ (.noFlag .emptyKey)
  refine List.forall_mem_cons.mpr ⟨?_, List.forall_mem_singleton.mpr ?_⟩
  · exact ⟨by decide, by decide, by decide⟩
  · exact ⟨by decide, by decide, by decide⟩

/-- After refused runs, a refusal leaves the metrics of the pairs in front of it. -/
theorem refusals_located_interrupted :
    let again := ({} : Tokenizer).after [["--lr"], ["lr", "1"]]
    (again.run (flagTokens interruptedPairs ++ ["--", "2"])).2.result = .error (.emptyKey 4) ∧
      ∃ t, (again.run (flagTokens interruptedPairs)).2.result = .ok t ∧
        (again.run (flagTokens interruptedPairs ++ ["--", "2"])).1.metrics =
          { t.metrics with tokenCount := 6 } := by
  obtain ⟨herror, hmetrics, -⟩ := refusals_located {} [["--lr"], ["lr", "1"]]
    (flagTokens interruptedPairs ++ ["--", "2"])
  have hrefused := refusedAfter_interruptedPairs
  exact ⟨(herror _).mpr ⟨_, hrefused⟩, hmetrics _ _ hrefused⟩

end Run

end Hyperparams

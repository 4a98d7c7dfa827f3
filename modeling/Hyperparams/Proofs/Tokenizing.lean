import Mathlib.Algebra.Group.Nat.Even
import Hyperparams.Proofs.Insertions
import Hyperparams.Proofs.Tables
import Hyperparams.Proofs.Tokens

/-!
# What the tokenizer takes and gives

Tokens are taken exactly when each position of a flag has a flag and each value is short enough. The
tokenizer goes over them once, and after each pair all that it has gathered is what the pairs so far
say: the last value of each key, the values that look like flags, the keys that came again and the
number of values of each kind.
-/

namespace Hyperparams

/-- Tokens that the tokenizer takes. -/
structure WellFormedTokens (tokens : List String) : Prop where
  few : tokens.length ≤ Limits.tokenCount
  paired : Even tokens.length
  /-- The first token of every pair is two dashes and a key of limited length. -/
  flags : ∀ i token, tokens[2 * i]? = some token →
    ∃ key, token = "--" ++ key ∧ 1 ≤ key.utf8ByteSize ∧ key.utf8ByteSize ≤ Limits.keyLength
  /-- The second token of every pair is a value of limited length. -/
  values : ∀ i token, tokens[2 * i + 1]? = some token →
    token.utf8ByteSize ≤ Limits.valueLength

/-- The pairs whose value looks like a flag, with the positions of the values among the tokens. -/
def suspiciousPairs (pairs : List (String × String)) : List SuspiciousPair :=
  pairs.zipIdx.filterMap fun (pair, i) =>
    if Tokenized.isFlag pair.2 then some ⟨pair.1, pair.2, 2 * i + 1⟩ else none

/-- The keys that came before, at each place where they come again. -/
def repeatedKeys (keys : List String) : List String :=
  (keys.zipIdx.filter fun (key, i) => key ∈ keys.take i).map Prod.fst

def inferredKinds (pairs : List (String × String)) : List String :=
  (inferred pairs).map fun entry => entry.2.kind

/-- A sorted table that says how often each kind comes, and only mentions the kinds that come. -/
structure Tallies (kinds : List String) (counts : Sorted.Table String Nat) : Prop where
  ascending : counts.keys.Pairwise (· < ·)
  find? : ∀ kind n, counts.find? kind = some n ↔ 0 < n ∧ kinds.count kind = n

/-- What the tokenizer has gathered after some pairs. -/
structure Gathers (prefs : Preferences.Tokenizing) (pairs : List (String × String))
    (t : Tokenized) : Prop where
  /-- Each key stands where it came first. -/
  keys : t.args.keys = (pairs.map Prod.fst).eraseDups
  /-- Each key has the value that came last for it. -/
  values : ∀ key, t.args.get? key = ((inferred pairs).filter (·.1 = key)).getLast?.map Prod.snd
  warnings : t.warnings = suspiciousPairs pairs
  pairCount : t.metrics.pairCount = pairs.length
  overwritten : t.metrics.overwrittenKeys = repeatedKeys (pairs.map Prod.fst)
  /-- A pair brings a new key or one that came before. -/
  keyCount : t.args.size + t.metrics.overwrittenKeys.length = pairs.length
  suspicious : t.metrics.suspiciousPairs = t.warnings.length
  kinds : prefs.collectTypeMetrics = true → Tallies (inferredKinds pairs) t.metrics.typeCounts

section Lists

variable {pairs : List (String × String)} {pair : String × String} {keys : List String}
  {key : String}

/-- A value is suspicious when it begins with two dashes. -/
theorem mem_suspiciousPairs_iff {warning : SuspiciousPair} :
    warning ∈ suspiciousPairs pairs ↔ ∃ i rest, pairs[i]? = some (warning.key, "--" ++ rest) ∧
      warning.value = "--" ++ rest ∧ warning.position = 2 * i + 1 := by
  unfold suspiciousPairs
  rw [List.mem_filterMap]
  constructor
  · rintro ⟨⟨⟨key, raw⟩, i⟩, hpair, hwarning⟩
    dsimp only at hwarning
    split at hwarning
    next hflag =>
      obtain ⟨rest, rfl⟩ := isFlag_eq_true_iff.mp hflag
      cases hwarning
      exact ⟨i, rest, List.mem_zipIdx_iff_getElem?.mp hpair, rfl, rfl⟩
    next => cases hwarning
  · obtain ⟨key, value, position⟩ := warning
    rintro ⟨i, rest, hpair, rfl, rfl⟩
    have hflag := isFlag_eq_true_iff.mpr ⟨rest, rfl⟩
    exact ⟨((key, "--" ++ rest), i), List.mem_zipIdx_iff_getElem?.mpr hpair, if_pos hflag⟩

/-- One more pair is suspicious if its value begins with two dashes. -/
theorem suspiciousPairs_concat (pairs : List (String × String)) (pair : String × String) :
    suspiciousPairs (pairs ++ [pair]) = suspiciousPairs pairs ++
      if Tokenized.isFlag pair.2 then [⟨pair.1, pair.2, 2 * pairs.length + 1⟩] else [] := by
  unfold suspiciousPairs
  rw [List.zipIdx_append, List.filterMap_append]
  congr 1
  cases hflag : Tokenized.isFlag pair.2 <;> simp [hflag]

/-- One more key is repeated if it came before. -/
theorem repeatedKeys_concat (keys : List String) (key : String) :
    repeatedKeys (keys ++ [key]) = repeatedKeys keys ++ if key ∈ keys then [key] else [] := by
  -- at the earlier places only the earlier keys come before
  have hearlier : keys.zipIdx.filter (fun (k, i) => decide (k ∈ (keys ++ [key]).take i)) =
      keys.zipIdx.filter fun (k, i) => decide (k ∈ keys.take i) := by
    refine List.filter_congr fun (k, i) hmem => ?_
    have hbound : i < 0 + keys.length := (List.mem_zipIdx hmem).2.1
    dsimp only
    rw [List.take_append_of_le_length (by omega)]
  unfold repeatedKeys
  rw [List.zipIdx_append, List.filter_append, List.map_append, hearlier]
  congr 1
  by_cases hmem : key ∈ keys <;> simp [hmem]

theorem keys_inferred (pairs : List (String × String)) :
    (inferred pairs).map Prod.fst = pairs.map Prod.fst := by
  simp [inferred, Function.comp_def]

theorem inferred_concat (pairs : List (String × String)) (key raw : String) :
    inferred (pairs ++ [(key, raw)]) = inferred pairs ++ [(key, Value.infer raw)] := by
  simp [inferred]

theorem tallies_nil : Tallies [] ∅ where
  ascending := List.Pairwise.nil
  find? kind n := by
    rw [List.count_nil]
    exact iff_of_false nofun fun ⟨hpos, hzero⟩ => hpos.ne hzero

/-- One more value counts for its kind. -/
theorem Tallies.concat {kinds : List String} {counts : Sorted.Table String Nat}
    (h : Tallies kinds counts) (kind : String) :
    Tallies (kinds ++ [kind]) (Tokenized.countKind kind counts) where
  ascending := Sorted.Table.ascending_keys _
  find? k n := by
    have hcount : (counts.find? kind).getD 0 = kinds.count kind := by
      cases hfind : counts.find? kind with
      | some m => exact ((h.find? kind m).mp hfind).2.symm
      | none =>
          by_contra hne
          have hpos : 0 < kinds.count kind := Nat.pos_of_ne_zero fun hzero => hne hzero.symm
          cases hfind.symm.trans ((h.find? kind _).mpr ⟨hpos, rfl⟩)
    unfold Tokenized.countKind
    rw [Sorted.Table.find?_insert, List.count_append, List.count_singleton]
    by_cases heq : kind = k
    · subst heq
      simp only [if_true, beq_self_eq_true, Option.some.injEq, hcount]
      omega
    · rw [if_neg heq, h.find?, if_neg (by simpa using heq), Nat.add_zero]

end Lists

section Gathering

open Tokenized

variable {prefs : Preferences.Tokenizing} {pairs : List (String × String)} {t : Tokenized}

theorem gathers_nil (prefs : Preferences.Tokenizing) (n : Nat) :
    Gathers prefs [] { metrics := { tokenCount := n } } where
  keys := rfl
  values key := Arguments.get?_ofList [] key
  warnings := rfl
  pairCount := rfl
  overwritten := rfl
  keyCount := rfl
  suspicious := rfl
  kinds _ := tallies_nil

/-- What the tokenizer has gathered is a table of all its pairs. -/
theorem Gathers.collects (h : Gathers prefs pairs t) :
    Arguments.Collects (inferred pairs) t.args where
  keys := by rw [keys_inferred, h.keys]
  get? := h.values

/-- One more pair changes what is gathered by what the pair says. -/
theorem Gathers.accept (h : Gathers prefs pairs t) (key raw : String) :
    Gathers prefs (pairs ++ [(key, raw)]) (t.accept prefs key raw (2 * pairs.length)) := by
  have hcollects := h.collects.insert key (Value.infer raw)
  rw [← inferred_concat] at hcollects
  have hkeys : key ∈ t.args.keys ↔ key ∈ pairs.map Prod.fst := by
    rw [h.keys, List.mem_eraseDups]
  have hsize : t.args.keys.length + t.metrics.overwrittenKeys.length = pairs.length := by
    rw [← Arguments.size_eq_length_keys]
    exact h.keyCount
  have hoverwritten : (t.accept prefs key raw (2 * pairs.length)).metrics.overwrittenKeys =
      t.metrics.overwrittenKeys ++ if key ∈ pairs.map Prod.fst then [key] else [] := by
    simp only [Tokenized.accept, Arguments.contains_eq_true_iff, hkeys]
    split <;> simp
  have hfirst : (pairs ++ [(key, raw)]).map Prod.fst = pairs.map Prod.fst ++ [key] := by simp
  constructor
  · rw [← keys_inferred]
    exact hcollects.keys
  · exact hcollects.get?
  · rw [suspiciousPairs_concat, ← h.warnings]
    unfold Tokenized.accept
    dsimp only
    split <;> simp
  · rw [List.length_append, ← h.pairCount]
    rfl
  · rw [hfirst, repeatedKeys_concat, ← h.overwritten]
    exact hoverwritten
  · change (t.args.insert key (Value.infer raw)).size + _ = _
    rw [hoverwritten, Arguments.size_eq_length_keys, List.length_append, List.length_append,
      ← hsize]
    by_cases hmem : key ∈ t.args.keys
    · rw [if_pos (hkeys.mp hmem), Arguments.keys_insert_of_mem hmem]
      rfl
    · rw [if_neg fun hkey => hmem (hkeys.mpr hkey), Arguments.keys_insert_of_not_mem hmem,
        List.length_append, List.length_nil, List.length_singleton, List.length_singleton]
      omega
  · have hsuspicious := h.suspicious
    unfold Tokenized.accept
    dsimp only
    split
    · rw [List.length_append, List.length_singleton, hsuspicious]
    · exact hsuspicious
  · intro hcollect
    have htallies := (h.kinds hcollect).concat (Value.infer raw).kind
    unfold Tokenized.accept inferredKinds
    simp only [inferred_concat, List.map_append, if_pos hcollect]
    exact htallies

end Gathering

section Scan

open Tokenized

variable {prefs : Preferences.Tokenizing} {pairs : List (String × String)} {tokens : List String}

def Tokenized.acceptAll (prefs : Preferences.Tokenizing) :
    Tokenized → Nat → List (String × String) → Tokenized
  | t, _, [] => t
  | t, position, (key, raw) :: rest =>
    acceptAll prefs (t.accept prefs key raw position) (position + 2) rest

/-- Pairs that are taken extend what the tokenizer has gathered. -/
theorem Gathers.acceptAll {before : List (String × String)} {t : Tokenized}
    (h : Gathers prefs before t) (pairs : List (String × String)) :
    Gathers prefs (before ++ pairs) (t.acceptAll prefs (2 * before.length) pairs) := by
  induction pairs generalizing before t with
  | nil =>
      rw [List.append_nil]
      exact h
  | cons pair rest ih =>
      have hlength : 2 * before.length + 2 = 2 * (before ++ [pair]).length := by
        rw [List.length_append, List.length_singleton]
        omega
      rw [List.append_cons, Tokenized.acceptAll, hlength]
      exact ih (h.accept pair.1 pair.2)

theorem tokenCount_acceptAll (prefs : Preferences.Tokenizing) (t : Tokenized) (position : Nat)
    (pairs : List (String × String)) :
    (t.acceptAll prefs position pairs).metrics.tokenCount = t.metrics.tokenCount := by
  induction pairs generalizing t position with
  | nil => rfl
  | cons pair rest ih => exact ih (t.accept prefs pair.1 pair.2 position) (position + 2)

/-- A flag is two dashes and the key that is found in it. -/
theorem eq_flag_of_key? {token found : String} {position : Nat}
    (h : key? token position = .ok found) : token = "--" ++ found := by
  unfold key? at h
  split at h
  next key hchars =>
    dsimp only at h
    split at h
    · cases h
    · split at h
      · cases h
      · cases h
        apply String.toList_injective
        rw [hchars]
        simp
  next => cases h

/-- Tokens that are gone over to the end are pairs, which are all taken. -/
theorem exists_pairs_of_scan {t : Tokenized} {position : Nat}
    (h : (t.scan prefs position tokens).2.result = .ok ()) :
    ∃ pairs, flagTokens pairs = tokens ∧
      (t.scan prefs position tokens).1 = t.acceptAll prefs position pairs := by
  fun_induction scan prefs t position tokens with
  | case1 t position => exact ⟨[], rfl, rfl⟩
  | case2 => cases h
  | case3 => cases h
  | case4 => cases h
  | case5 t position flag key hkey raw rest hshort t' outcome hscan ih =>
      rw [hscan] at ih
      obtain ⟨pairs, rfl, htaken⟩ := ih h
      exact ⟨(key, raw) :: pairs, by rw [eq_flag_of_key? hkey]; rfl, htaken⟩

section Places

/-- Flags stand at the even positions. -/
theorem getElem?_flagTokens_flag (pairs : List (String × String)) (i : Nat) :
    (flagTokens pairs)[2 * i]? = pairs[i]?.map fun pair => "--" ++ pair.1 := by
  induction pairs generalizing i with
  | nil => rfl
  | cons pair rest ih =>
      cases i with
      | zero => rfl
      | succ i => exact ih i

/-- Values stand at the odd positions. -/
theorem getElem?_flagTokens_value (pairs : List (String × String)) (i : Nat) :
    (flagTokens pairs)[2 * i + 1]? = pairs[i]?.map Prod.snd := by
  induction pairs generalizing i with
  | nil => rfl
  | cons pair rest ih =>
      cases i with
      | zero => rfl
      | succ i => exact ih i

theorem one_le_utf8ByteSize_iff {key : String} : 1 ≤ key.utf8ByteSize ↔ key ≠ "" := by
  rw [Nat.one_le_iff_ne_zero, Ne, String.utf8ByteSize_eq_zero_iff]

/-- Tokens of even number with flags in the places of flags are those of some pairs. -/
theorem exists_pairs : ∀ tokens : List String, Even tokens.length →
    (∀ i token, tokens[2 * i]? = some token → ∃ key, token = "--" ++ key) →
      ∃ pairs, flagTokens pairs = tokens
  | [], _, _ => ⟨[], rfl⟩
  | [_], hpaired, _ => absurd hpaired Nat.not_even_one
  | flag :: raw :: rest, hpaired, hflags => by
      have hrest : Even rest.length := by
        simpa [Nat.even_add_one] using hpaired
      obtain ⟨key, rfl⟩ := hflags 0 flag rfl
      obtain ⟨pairs, rfl⟩ := exists_pairs rest hrest fun i token htoken => hflags (i + 1) token htoken
      exact ⟨(key, raw) :: pairs, rfl⟩

end Places

/-- Pairs are well formed exactly when the tokens in the places of flags and of values are. -/
theorem forall_wellFormedPair_iff :
    (∀ pair ∈ pairs, WellFormedPair pair) ↔
      (∀ i token, (flagTokens pairs)[2 * i]? = some token →
        ∃ key, token = "--" ++ key ∧ 1 ≤ key.utf8ByteSize ∧
          key.utf8ByteSize ≤ Limits.keyLength) ∧
      ∀ i token, (flagTokens pairs)[2 * i + 1]? = some token →
        token.utf8ByteSize ≤ Limits.valueLength := by
  simp only [getElem?_flagTokens_flag, getElem?_flagTokens_value, Option.map_eq_some_iff]
  constructor
  · intro h
    constructor
    · rintro i token ⟨pair, hpair, rfl⟩
      obtain ⟨hnonempty, hkey, -⟩ := h pair (List.mem_of_getElem? hpair)
      exact ⟨pair.1, rfl, one_le_utf8ByteSize_iff.mpr hnonempty, hkey⟩
    · rintro i token ⟨pair, hpair, rfl⟩
      exact (h pair (List.mem_of_getElem? hpair)).value_short
  · rintro ⟨hflags, hvalues⟩ pair hmem
    obtain ⟨i, hpair⟩ := List.mem_iff_getElem?.mp hmem
    obtain ⟨key, heq, hnonempty, hkey⟩ := hflags i _ ⟨pair, hpair, rfl⟩
    cases String.append_right_inj _ |>.mp heq
    exact ⟨one_le_utf8ByteSize_iff.mp hnonempty, hkey, hvalues i _ ⟨pair, hpair, rfl⟩⟩

/-- Well-formed tokens are those of pairs that can be taken. -/
theorem wellFormedTokens_iff :
    WellFormedTokens tokens ↔ ∃ pairs, flagTokens pairs = tokens ∧ Tokenizable pairs := by
  constructor
  · rintro ⟨hfew, hpaired, hflags, hvalues⟩
    obtain ⟨pairs, rfl⟩ := exists_pairs tokens hpaired fun i token htoken =>
      (hflags i token htoken).imp fun key h => h.1
    rw [length_flagTokens] at hfew
    exact ⟨pairs, rfl, hfew, forall_wellFormedPair_iff.mpr ⟨hflags, hvalues⟩⟩
  · rintro ⟨pairs, rfl, hfew, hpairs⟩
    obtain ⟨hflags, hvalues⟩ := forall_wellFormedPair_iff.mp hpairs
    rw [← length_flagTokens] at hfew
    exact ⟨hfew, ⟨pairs.length, (length_flagTokens pairs).trans (Nat.two_mul _)⟩, hflags, hvalues⟩

/-- The outcome of a run does not depend on earlier runs. -/
theorem run_eq_tokenize (tokenizer : Tokenizer) (tokens : List String) :
    (tokenizer.run tokens).2 = tokenize tokenizer.preferences tokens := by
  unfold tokenize Tokenizer.run
  dsimp only

/-- A run that succeeds has taken all pairs, and the tokenizer remembers what it counted. -/
theorem exists_pairs_of_run {tokenizer : Tokenizer} {t : Tokenized}
    (h : (tokenizer.run tokens).2.result = .ok t) :
    ∃ pairs, flagTokens pairs = tokens ∧ Gathers tokenizer.preferences pairs t ∧
      t.metrics.tokenCount = tokens.length ∧ (tokenizer.run tokens).1.metrics = t.metrics := by
  unfold Tokenizer.run at h ⊢
  dsimp only at h ⊢
  split at h
  next => cases h
  next hfew =>
    rw [Log.Traced.result_bind] at h
    obtain ⟨⟨⟩, hscan, h⟩ := Outcome.bind_eq_ok_iff.mp h
    cases h
    obtain ⟨pairs, hpairs, htaken⟩ := exists_pairs_of_scan hscan
    rw [if_neg hfew, htaken]
    refine ⟨pairs, hpairs, ?_, tokenCount_acceptAll _ _ _ _, rfl⟩
    exact (gathers_nil tokenizer.preferences tokens.length).acceptAll pairs

/-- The tokenizer takes well-formed tokens, and only these. -/
theorem exists_tokenize_iff :
    (∃ t, (tokenize prefs tokens).result = .ok t) ↔ WellFormedTokens tokens := by
  rw [wellFormedTokens_iff]
  constructor
  · rintro ⟨t, h⟩
    have hrun : (({ preferences := prefs } : Tokenizer).run tokens).2.result = .ok t := h
    obtain ⟨pairs, rfl, -⟩ := exists_pairs_of_run hrun
    exact ⟨pairs, rfl, (tokenize_flagTokens_ok_iff.mp ⟨t, h, rfl⟩).1⟩
  · rintro ⟨pairs, rfl, hpairs⟩
    obtain ⟨t, h, -⟩ := tokenize_flagTokens_ok_iff.mpr ⟨hpairs, rfl⟩
    exact ⟨t, h⟩

/-- The tokenizer takes well-formed tokens and no others. Then it has gathered what their pairs say,
the number of tokens is twice that of pairs, and the metrics of the run are kept. -/
theorem tokenizer_takes_wellFormed (tokenizer : Tokenizer) (tokens : List String) :
    ((∃ t, (tokenizer.run tokens).2.result = .ok t) ↔ WellFormedTokens tokens) ∧
      ∀ t, (tokenizer.run tokens).2.result = .ok t → ∃ pairs, flagTokens pairs = tokens ∧
        Gathers tokenizer.preferences pairs t ∧
          t.metrics.tokenCount = 2 * t.metrics.pairCount ∧
            (tokenizer.run tokens).1.metrics = t.metrics := by
  refine ⟨?_, fun t h => ?_⟩
  · rw [run_eq_tokenize]
    exact exists_tokenize_iff
  · obtain ⟨pairs, hpairs, hgathers, hcount, hkept⟩ := exists_pairs_of_run h
    refine ⟨pairs, hpairs, hgathers, ?_, hkept⟩
    rw [hcount, hgathers.pairCount, ← hpairs, length_flagTokens]

end Scan

end Hyperparams

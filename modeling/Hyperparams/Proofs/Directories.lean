import Mathlib.Data.List.TakeWhile
import Hyperparams.Proofs.Tokens
import Hyperparams.Protocol.Directories

/-!
# Taking directories out of tokens

Tokens are a sequence of parts: the flag of a directory with a value, which is joined to the flag or
follows it, or a token that belongs to the hyperparameters. A flag without a value is the only way
to fail. Every directory is the value that was given last for its flag, and what is left has no flag
in it any more.
-/

namespace Hyperparams.Protocol

section Flags

variable {token name value : String}

theorem toList_joined (name value : String) :
    ("--" ++ name ++ "=" ++ value).toList = '-' :: '-' :: (name.toList ++ '=' :: value.toList) := by
  simp

/-- A flag without an equals sign is a name without a value. -/
theorem splitFlag?_flag (h : '=' ∉ name.toList) :
    splitFlag? ("--" ++ name) = some (name, none) := by
  have hall : ∀ char ∈ name.toList, decide (char ≠ '=') = true := by
    intro char hchar
    exact decide_eq_true fun heq => h (heq ▸ hchar)
  unfold splitFlag?
  rw [toList_flag]
  simp only [List.takeWhile_eq_self_iff.mpr hall, List.dropWhile_eq_nil_iff.mpr hall,
    String.ofList_toList]

/-- What follows the first equals sign of a flag is its value. -/
theorem splitFlag?_joined (h : '=' ∉ name.toList) (value : String) :
    splitFlag? ("--" ++ name ++ "=" ++ value) = some (name, some value) := by
  have hall : ∀ char ∈ name.toList, decide (char ≠ '=') = true := by
    intro char hchar
    exact decide_eq_true fun heq => h (heq ▸ hchar)
  unfold splitFlag?
  rw [toList_joined]
  simp only [List.takeWhile_append_of_pos hall, List.dropWhile_append_of_pos hall]
  simp

/-- A flag without a joined value is two dashes and a name. -/
theorem eq_flag_of_splitFlag? (h : splitFlag? token = some (name, none)) :
    token = "--" ++ name := by
  unfold splitFlag? at h
  split at h
  next cs hchars =>
    obtain ⟨hname, hvalue⟩ := Prod.mk.inj (Option.some.inj h)
    split at hvalue
    next hdrop =>
      apply String.toList_injective
      rw [hchars, toList_flag, ← hname, String.toList_ofList,
        List.takeWhile_eq_self_iff.mpr (List.dropWhile_eq_nil_iff.mp hdrop)]
    next => cases hvalue
  next => cases h

/-- A flag with a joined value has the first equals sign between name and value. -/
theorem eq_joined_of_splitFlag? (h : splitFlag? token = some (name, some value)) :
    token = "--" ++ name ++ "=" ++ value := by
  unfold splitFlag? at h
  split at h
  next cs hchars =>
    obtain ⟨hname, hvalue⟩ := Prod.mk.inj (Option.some.inj h)
    split at hvalue
    next => cases hvalue
    next char rest hdrop =>
      have hchar : char = '=' := by
        have hhead := List.head?_dropWhile_not (fun char => decide (char ≠ '=')) cs
        rw [hdrop] at hhead
        simpa using hhead
      subst hchar
      apply String.toList_injective
      rw [hchars, toList_joined, ← hname, ← Option.some.inj hvalue, String.toList_ofList,
        String.toList_ofList, ← hdrop, List.takeWhile_append_dropWhile]
  next => cases h

end Flags

namespace Config

variable {c : Config} {token name value : String}

theorem channelError?_eq_none_iff {names : List String} :
    channelError? names = none ↔ ∀ name ∈ names, channelDefect? name = none := by
  induction names with
  | nil => simp [channelError?]
  | cons name rest ih =>
      rw [List.forall_mem_cons, ← ih, channelError?]
      cases channelDefect? name <;> simp

/-- A configuration is valid when each of its channels can be a flag. -/
theorem validate_eq_ok_iff :
    c.validate = .ok () ↔ ∀ name ∈ c.channels, channelDefect? name = none := by
  rw [← channelError?_eq_none_iff, validate]
  cases channelError? c.channels <;> simp

/-- The channels of a valid configuration are neither of the two other flags. -/
theorem ne_of_mem_channels (hc : c.validate = .ok ()) (h : name ∈ c.channels) :
    name ≠ modelFlag ∧ name ≠ outputFlag := by
  have hnone := validate_eq_ok_iff.mp hc name h
  unfold channelDefect? at hnone
  split at hnone
  · cases hnone
  · split at hnone
    · cases hnone
    next hfree => exact not_or.mp hfree

/-- The name of a flag ends where the value begins. -/
theorem not_mem_of_isFlag (hc : c.validate = .ok ()) (h : c.isFlag name = true) :
    '=' ∉ name.toList := by
  simp only [isFlag, Bool.or_eq_true, decide_eq_true_eq, List.contains_iff_mem] at h
  rcases h with (rfl | rfl) | hmem
  · decide
  · decide
  · have hnone := validate_eq_ok_iff.mp hc name hmem
    unfold channelDefect? at hnone
    intro hequals
    split at hnone
    · cases hnone
    · split at hnone
      · cases hnone
      · split at hnone
        · cases hnone
        next hbare => exact hbare (by simp; exact Or.inr ⟨_, hequals, Or.inl rfl⟩)

/-- A token names a directory when it is a flag of the configuration, with or without a value. -/
theorem directoryFlag?_eq_some_iff {flag : String × Option String} :
    c.directoryFlag? token = some flag ↔ splitFlag? token = some flag ∧ c.isFlag flag.1 = true := by
  unfold directoryFlag?
  rw [Option.filter_eq_some_iff]

theorem directoryFlag?_flag (hc : c.validate = .ok ()) (h : c.isFlag name = true) :
    c.directoryFlag? ("--" ++ name) = some (name, none) :=
  directoryFlag?_eq_some_iff.mpr ⟨splitFlag?_flag (not_mem_of_isFlag hc h), h⟩

theorem directoryFlag?_joined (hc : c.validate = .ok ()) (h : c.isFlag name = true)
    (value : String) : c.directoryFlag? ("--" ++ name ++ "=" ++ value) = some (name, some value) :=
  directoryFlag?_eq_some_iff.mpr ⟨splitFlag?_joined (not_mem_of_isFlag hc h) value, h⟩

end Config

/-- A piece of the tokens: one that belongs to the hyperparameters, or the name of a flag with its
value, joined by an equals sign or in two tokens. -/
inductive Part where
  | foreign (token : String)
  | joined (name value : String)
  | separate (name value : String)
deriving DecidableEq, Repr

namespace Part

def tokens : Part → List String
  | foreign token => [token]
  | joined name value => ["--" ++ name ++ "=" ++ value]
  | separate name value => ["--" ++ name, value]

def left : Part → List String
  | foreign token => [token]
  | joined .. => []
  | separate .. => []

def given : Part → List (String × String)
  | foreign _ => []
  | joined name value => [(name, value)]
  | separate name value => [(name, value)]

/-- The parts of a configuration. A foreign token is neither the flag of a directory nor one with a
joined value; a value in a token of its own does not look like a flag. -/
def Fits (c : Config) : Part → Prop
  | foreign token => ∀ name, c.isFlag name = true →
      token ≠ "--" ++ name ∧ ∀ value, token ≠ "--" ++ name ++ "=" ++ value
  | joined name _ => c.isFlag name = true
  | separate name value => c.isFlag name = true ∧ Tokenized.isFlag value = false

end Part

/-- Tokens are split into parts of a configuration. -/
structure Splits (c : Config) (tokens : List String) (parts : List Part) : Prop where
  tokens : parts.flatMap Part.tokens = tokens
  fits : ∀ part ∈ parts, part.Fits c

def lastGiven (parts : List Part) (name : String) : Option String :=
  ((parts.flatMap Part.given).filter (·.1 = name)).getLast?.map Prod.snd

/-- A flag that has no value: it is the last token, or the next one looks like a flag. -/
def LacksValue (c : Config) (tokens : List String) (i : Nat) (name : String) : Prop :=
  tokens[i]? = some ("--" ++ name) ∧ c.isFlag name = true ∧
    ∀ next, tokens[i + 1]? = some next → Tokenized.isFlag next = true

/-- The first flag from the left that has no value. -/
def FirstLacking (c : Config) (tokens : List String) (name : String) : Prop :=
  ∃ i, LacksValue c tokens i name ∧ ∀ j < i, ∀ other, ¬ LacksValue c tokens j other

section Lacking

variable {c : Config} {token name : String} {rest : List String}

theorem firstLacking_nil : ¬ FirstLacking c [] name := by
  rintro ⟨i, ⟨hget, -⟩, -⟩
  simp at hget

/-- A first token that is no flag without a value does not matter. -/
theorem firstLacking_cons_iff (h : ∀ other, ¬ LacksValue c (token :: rest) 0 other) :
    FirstLacking c (token :: rest) name ↔ FirstLacking c rest name := by
  constructor
  · rintro ⟨i, hi, hfirst⟩
    cases i with
    | zero => exact absurd hi (h name)
    | succ i =>
        exact ⟨i, hi, fun j hj other hother => hfirst (j + 1) (Nat.succ_lt_succ hj) other hother⟩
  · rintro ⟨i, hi, hfirst⟩
    refine ⟨i + 1, hi, fun j hj other hother => ?_⟩
    cases j with
    | zero => exact h other hother
    | succ j => exact hfirst j (Nat.lt_of_succ_lt_succ hj) other hother

theorem firstLacking_iff_of_head (h : LacksValue c (token :: rest) 0 name) {other : String} :
    FirstLacking c (token :: rest) other ↔ other = name := by
  constructor
  · rintro ⟨i, hi, hfirst⟩
    cases i with
    | zero =>
        have hsame := Option.some.inj (hi.1.symm.trans h.1)
        exact (String.append_right_inj _).mp hsame
    | succ i => exact absurd h (hfirst 0 (Nat.succ_pos i) name)
  · rintro rfl
    exact ⟨0, h, fun j hj => absurd hj (Nat.not_lt_zero j)⟩

/-- No flag lacks its value in a part. -/
theorem firstLacking_part (hc : c.validate = .ok ()) {part : Part} (h : part.Fits c) :
    FirstLacking c (part.tokens ++ rest) name ↔ FirstLacking c rest name := by
  cases part with
  | foreign token =>
      apply firstLacking_cons_iff
      rintro other ⟨htoken, hother, -⟩
      exact (h other hother).1 (Option.some.inj htoken)
  | joined flag value =>
      apply firstLacking_cons_iff
      rintro other ⟨htoken, hother, -⟩
      have hjoined := Config.directoryFlag?_joined hc h value
      rw [Option.some.inj htoken, Config.directoryFlag?_flag hc hother] at hjoined
      cases hjoined
  | separate flag value =>
      obtain ⟨-, hvalue⟩ := h
      refine (firstLacking_cons_iff fun other hother => ?_).trans
        (firstLacking_cons_iff fun other hother => ?_)
      · cases hvalue.symm.trans (hother.2.2 value rfl)
      · have hflag := isFlag_eq_true_iff.mpr ⟨other, Option.some.inj hother.1⟩
        cases hvalue.symm.trans hflag

end Lacking

section Scan

variable {c : Config} {d d' : Directories} {tokens left : List String}

def Directories.setAll (d : Directories) (given : List (String × String)) : Directories :=
  given.foldl (fun d entry => d.set entry.1 entry.2) d

/-- Parts are read as what they are. -/
theorem scan_parts (hc : c.validate = .ok ()) {parts : List Part}
    (hfits : ∀ part ∈ parts, part.Fits c) (d : Directories) :
    c.scan d (parts.flatMap Part.tokens) =
      .ok (d.setAll (parts.flatMap Part.given), parts.flatMap Part.left) := by
  induction parts generalizing d with
  | nil => rfl
  | cons part rest ih =>
      obtain ⟨hpart, hrest⟩ := List.forall_mem_cons.mp hfits
      simp only [List.flatMap_cons]
      cases part with
      | foreign token =>
          have hnone : c.directoryFlag? token = none := by
            rw [Option.eq_none_iff_forall_ne_some]
            rintro ⟨name, value⟩ hflag
            obtain ⟨hsplit, hname⟩ := Config.directoryFlag?_eq_some_iff.mp hflag
            cases value with
            | none => exact (hpart name hname).1 (eq_flag_of_splitFlag? hsplit)
            | some value => exact (hpart name hname).2 value (eq_joined_of_splitFlag? hsplit)
          simp only [Part.tokens, Part.given, Part.left, List.cons_append, List.nil_append]
          rw [Config.scan, hnone]
          dsimp only
          rw [ih hrest]
          rfl
      | joined name value =>
          simp only [Part.tokens, Part.given, Part.left, List.cons_append, List.nil_append]
          rw [Config.scan, Config.directoryFlag?_joined hc hpart]
          exact ih hrest _
      | separate name value =>
          simp only [Part.tokens, Part.given, Part.left, List.cons_append, List.nil_append]
          rw [Config.scan, Config.directoryFlag?_flag hc hpart.1]
          simp only [hpart.2, Bool.false_eq_true, if_false]
          exact ih hrest _

/-- Tokens are split into parts, or a flag has no value. -/
inductive Scanned (c : Config) (tokens : List String) {α : Type} (result : Except ProtocolError α) :
    Prop
  | split {parts : List Part} : Splits c tokens parts → (∀ name, ¬ FirstLacking c tokens name) →
      Scanned c tokens result
  | lacking {name : String} : result = .error (.missingValue name) →
      (∀ other, FirstLacking c tokens other ↔ other = name) → Scanned c tokens result

/-- One more part in front. -/
theorem Scanned.cons (hc : c.validate = .ok ()) {part : Part} (hpart : part.Fits c) {α β : Type}
    {result : Except ProtocolError α} {result' : Except ProtocolError β}
    (h : Scanned c tokens result) (hresult : ∀ e, result = .error e → result' = .error e) :
    Scanned c (part.tokens ++ tokens) result' := by
  cases h with
  | @split parts hsplits hnone =>
      have hall : Splits c (part.tokens ++ tokens) (part :: parts) :=
        ⟨by rw [List.flatMap_cons, hsplits.tokens], List.forall_mem_cons.mpr ⟨hpart, hsplits.fits⟩⟩
      refine .split hall fun name => ?_
      rw [firstLacking_part hc hpart]
      exact hnone name
  | lacking herror hfirst =>
      refine .lacking (hresult _ herror) fun other => ?_
      rw [firstLacking_part hc hpart]
      exact hfirst other

/-- Scanning splits the tokens, or ends at the first flag that has no value. -/
theorem scanned (hc : c.validate = .ok ()) (d : Directories) (tokens : List String) :
    Scanned c tokens (c.scan d tokens) := by
  fun_induction Config.scan c d tokens with
  | case1 d =>
      have hempty : Splits c [] [] := ⟨rfl, List.forall_mem_nil _⟩
      exact .split hempty fun _ => firstLacking_nil
  | case2 d token rest hnone ih =>
      have hfits : (Part.foreign token).Fits c := by
        intro name hname
        refine ⟨fun heq => ?_, fun value heq => ?_⟩
        · rw [heq, Config.directoryFlag?_flag hc hname] at hnone
          cases hnone
        · rw [heq, Config.directoryFlag?_joined hc hname] at hnone
          cases hnone
      refine ih.cons hc hfits fun e he => ?_
      rw [he]
      rfl
  | case3 d token rest name value hflag ih =>
      obtain ⟨hsplit, hname⟩ := Config.directoryFlag?_eq_some_iff.mp hflag
      have hfits : (Part.joined name value).Fits c := hname
      rw [eq_joined_of_splitFlag? hsplit]
      exact ih.cons hc hfits fun _ he => he
  | case4 d token name hflag =>
      obtain ⟨hsplit, hname⟩ := Config.directoryFlag?_eq_some_iff.mp hflag
      refine .lacking rfl fun other => firstLacking_iff_of_head ⟨?_, hname, by simp⟩
      rw [eq_flag_of_splitFlag? hsplit]
      rfl
  | case5 d token name hflag value rest hvalue =>
      obtain ⟨hsplit, hname⟩ := Config.directoryFlag?_eq_some_iff.mp hflag
      refine .lacking rfl fun other => firstLacking_iff_of_head ⟨?_, hname, fun next hnext => ?_⟩
      · rw [eq_flag_of_splitFlag? hsplit]
        rfl
      · cases hnext
        exact hvalue
  | case6 d token name hflag value rest hvalue ih =>
      obtain ⟨hsplit, hname⟩ := Config.directoryFlag?_eq_some_iff.mp hflag
      have hfits : (Part.separate name value).Fits c := ⟨hname, by simpa using hvalue⟩
      rw [eq_flag_of_splitFlag? hsplit]
      exact ih.cons hc hfits fun _ he => he

/-- A scan fails exactly when a flag has no value, and names the first one. -/
theorem scan_eq_error_iff (hc : c.validate = .ok ()) {e : ProtocolError} :
    c.scan d tokens = .error e ↔ ∃ name, FirstLacking c tokens name ∧ e = .missingValue name := by
  cases scanned hc d tokens with
  | @split parts hsplits hnone =>
      have hok := scan_parts hc hsplits.fits d
      rw [hsplits.tokens] at hok
      refine iff_of_false (fun he => ?_) fun ⟨name, hname, _⟩ => hnone name hname
      cases hok.symm.trans he
  | @lacking name herror hfirst =>
      simp only [herror, Except.error.injEq, hfirst, exists_eq_left]
      exact eq_comm

/-- What a scan gives is what the parts of the tokens say. -/
theorem exists_splits_of_scan (hc : c.validate = .ok ()) (h : c.scan d tokens = .ok (d', left)) :
    ∃ parts, Splits c tokens parts ∧ left = parts.flatMap Part.left ∧
      d' = d.setAll (parts.flatMap Part.given) := by
  cases scanned hc d tokens with
  | @split parts hsplits _ =>
      have hok := scan_parts hc hsplits.fits d
      rw [hsplits.tokens, h] at hok
      obtain ⟨rfl, rfl⟩ := Prod.mk.inj (Except.ok.inj hok)
      exact ⟨parts, hsplits, rfl, rfl⟩
  | lacking herror => cases herror.symm.trans h

/-- What is left is foreign. -/
theorem scan_left (hc : c.validate = .ok ()) {parts : List Part}
    (hfits : ∀ part ∈ parts, part.Fits c) (d : Directories) :
    c.scan d (parts.flatMap Part.left) = .ok (d, parts.flatMap Part.left) := by
  have hforeign : ∀ part ∈ (parts.flatMap Part.left).map Part.foreign, part.Fits c := by
    intro part hpart
    obtain ⟨token, htoken, rfl⟩ := List.mem_map.mp hpart
    obtain ⟨source, hsource, htoken⟩ := List.mem_flatMap.mp htoken
    have hfit := hfits source hsource
    cases source with
    | foreign other =>
        cases List.mem_singleton.mp htoken
        exact hfit
    | joined => cases htoken
    | separate => cases htoken
  have hscan := scan_parts hc hforeign d
  have hgiven : ((parts.flatMap Part.left).map Part.foreign).flatMap Part.given = [] := by
    rw [List.flatMap_map]
    exact List.flatMap_eq_nil_iff.mpr fun _ _ => rfl
  rw [hgiven] at hscan
  simp only [List.flatMap_map, Part.tokens, Part.left, List.flatMap_singleton'] at hscan
  exact hscan

end Scan

namespace Directories

variable {c : Config} {d : Directories} {flag path : String}

def named? (d : Directories) (flag : String) : Option String :=
  if flag = modelFlag then some d.model
  else if flag = outputFlag then some d.output
  else d.channel? flag

@[simp]
theorem named?_modelFlag (d : Directories) : d.named? modelFlag = some d.model :=
  if_pos rfl

@[simp]
theorem named?_outputFlag (d : Directories) : d.named? outputFlag = some d.output := by
  have hflags : outputFlag ≠ modelFlag := by decide
  rw [named?, if_neg hflags, if_pos rfl]

theorem named?_channel (hc : c.validate = .ok ()) {channel : String}
    (h : channel ∈ c.channels) (d : Directories) : d.named? channel = d.channel? channel := by
  obtain ⟨hmodel, houtput⟩ := Config.ne_of_mem_channels hc h
  rw [named?, if_neg hmodel, if_neg houtput]

/-- Setting a directory changes what its flag names, and nothing else. -/
theorem named?_set (d : Directories) (flag path other : String) :
    (d.set flag path).named? other = if flag = other then some path else d.named? other := by
  have hflags : outputFlag ≠ modelFlag := by decide
  unfold set named? channel?
  by_cases hmodel : flag = modelFlag
  · by_cases hother : other = modelFlag
    · simp [hmodel, hother]
    · simp [hmodel, hother, Ne.symm hother]
  · by_cases houtput : flag = outputFlag
    · by_cases hother : other = outputFlag
      · simp [houtput, hother, hflags]
      · simp [houtput, hother, hflags, Ne.symm hother]
    · rw [if_neg hmodel, if_neg houtput]
      dsimp only
      rw [Sorted.Table.find?_insert]
      by_cases heq : flag = other
      · subst heq
        simp [hmodel, houtput]
      · simp [heq]

/-- The last directory that is given for a flag counts. -/
theorem named?_setAll (d : Directories) (parts : List Part) (flag : String) :
    (d.setAll (parts.flatMap Part.given)).named? flag =
      (lastGiven parts flag).or (d.named? flag) :=
  Sorted.lookup_foldl named? set named?_set _ d flag

/-- Whether the channels are those of a configuration. -/
def Configured (c : Config) (d : Directories) : Prop :=
  ∀ channel, channel ∈ d.channels.keys ↔ channel ∈ c.channels

/-- Setting the directory of a known flag adds no channel. -/
theorem Configured.set (h : Configured c d) (hflag : c.isFlag flag = true) (path : String) :
    Configured c (d.set flag path) := by
  unfold Directories.set
  split
  · exact h
  next hmodel =>
    split
    · exact h
    next houtput =>
      have hmem : flag ∈ c.channels := by simpa [Config.isFlag, hmodel, houtput] using hflag
      intro channel
      rw [Sorted.Table.mem_keys_insert, h channel]
      exact or_iff_right_of_imp fun heq => heq ▸ hmem

theorem Configured.setAll (h : Configured c d) {given : List (String × String)}
    (hgiven : ∀ entry ∈ given, c.isFlag entry.1 = true) : Configured c (d.setAll given) := by
  induction given generalizing d with
  | nil => exact h
  | cons entry rest ih =>
      obtain ⟨hentry, hrest⟩ := List.forall_mem_cons.mp hgiven
      exact ih (h.set hentry entry.2) hrest

end Directories

section Defaults

variable {c : Config} {env : Environment}

def channelDefault (c : Config) (env : Environment) (channel : String) : String :=
  (env (channelVariable channel)).getD (Path.join c.channelParent channel)

/-- Without flags the channels have directories from the environment or the configuration. -/
theorem channel?_defaults (c : Config) (env : Environment) (channel : String) :
    (c.defaults env).channel? channel =
      if channel ∈ c.channels then some (channelDefault c env channel) else none := by
  let entries := c.channels.map fun channel => (channel, channelDefault c env channel)
  have hfind : (c.defaults env).channel? channel =
      (entries.filter (·.1 = channel)).getLast?.map Prod.snd :=
    Sorted.Table.find?_ofList entries channel
  rw [hfind]
  cases hlast : (entries.filter (·.1 = channel)).getLast? with
  | none =>
      have hnot : channel ∉ c.channels := by
        intro hmem
        have hnil := List.getLast?_eq_none_iff.mp hlast
        have hentry := List.filter_eq_nil_iff.mp hnil _ (List.mem_map_of_mem hmem)
        simp at hentry
      rw [if_neg hnot]
      rfl
  | some entry =>
      obtain ⟨hmem, hkey⟩ := List.mem_filter.mp (List.mem_of_getLast? hlast)
      obtain ⟨other, hother, rfl⟩ := List.mem_map.mp hmem
      cases of_decide_eq_true hkey
      rw [if_pos hother]
      rfl

theorem configured_defaults (c : Config) (env : Environment) :
    (c.defaults env).Configured c := by
  intro channel
  have hfind := channel?_defaults c env channel
  rw [← not_iff_not, ← Sorted.Table.find?_eq_none_iff]
  change (c.defaults env).channel? channel = none ↔ _
  rw [hfind]
  simp

end Defaults

section Parsing

variable {c : Config} {env : Environment} {tokens : List String}

theorem parse_result (c : Config) (start : Directories) (tokens : List String) :
    (c.parse start tokens).result = c.scan start tokens := by
  unfold Config.parse
  split
  next h => exact h.symm
  next h => exact h.symm

/-- Only flags of the configuration are given directories. -/
theorem isFlag_of_mem_given {parts : List Part} (hfits : ∀ part ∈ parts, part.Fits c)
    {entry : String × String} (h : entry ∈ parts.flatMap Part.given) : c.isFlag entry.1 = true := by
  obtain ⟨part, hpart, hentry⟩ := List.mem_flatMap.mp h
  have hfit := hfits part hpart
  cases part with
  | foreign => cases hentry
  | joined name value =>
      cases List.mem_singleton.mp hentry
      exact hfit
  | separate name value =>
      cases List.mem_singleton.mp hentry
      exact hfit.1

/-- Tokens are refused exactly when a flag has no value, and the first one is named. All others are
split into parts: what is left are the foreign tokens in order, and every directory is the last
value given for its flag, else what the environment says, else the local one. There are directories
for exactly the channels of the configuration. What is left is not split any further. -/
theorem parse_splits (c : Config) (hc : c.validate = .ok ()) (env : Environment)
    (tokens : List String) :
    let run := (c.parse (c.defaults env) tokens).result
    (∀ e, run = .error e ↔ ∃ name, FirstLacking c tokens name ∧ e = .missingValue name) ∧
      ∀ d left, run = .ok (d, left) → ∃ parts, Splits c tokens parts ∧
        left = parts.flatMap Part.left ∧
        d.model = (lastGiven parts modelFlag).getD ((env "SM_MODEL_DIR").getD c.model) ∧
        d.output = (lastGiven parts outputFlag).getD ((env "SM_OUTPUT_DATA_DIR").getD c.output) ∧
        (∀ channel ∈ c.channels, d.channel? channel = some ((lastGiven parts channel).getD
          ((env (channelVariable channel)).getD (Path.join c.channelParent channel)))) ∧
        d.channels.keys.Pairwise (· < ·) ∧
        (∀ channel, channel ∈ d.channels.keys ↔ channel ∈ c.channels) ∧
        ∀ start, (c.parse start left).result = .ok (start, left) := by
  intro run
  have hrun : run = c.scan (c.defaults env) tokens := parse_result c _ tokens
  refine ⟨fun e => by rw [hrun]; exact scan_eq_error_iff hc, fun d left h => ?_⟩
  rw [hrun] at h
  obtain ⟨parts, hsplits, hleft, hd⟩ := exists_splits_of_scan hc h
  have hnamed : ∀ flag, d.named? flag =
      (lastGiven parts flag).or ((c.defaults env).named? flag) := by
    intro flag
    rw [hd]
    exact Directories.named?_setAll _ parts flag
  have hconfigured : d.Configured c := by
    rw [hd]
    exact (configured_defaults c env).setAll fun entry => isFlag_of_mem_given hsplits.fits
  refine ⟨parts, hsplits, hleft, ?_, ?_, fun channel hchannel => ?_,
    d.channels.ascending_keys, hconfigured, fun start => ?_⟩
  · have hmodel := hnamed modelFlag
    simp only [Directories.named?_modelFlag, Option.or_some] at hmodel
    exact Option.some.inj hmodel
  · have houtput := hnamed outputFlag
    simp only [Directories.named?_outputFlag, Option.or_some] at houtput
    exact Option.some.inj houtput
  · have hdirectory := hnamed channel
    rw [Directories.named?_channel hc hchannel, Directories.named?_channel hc hchannel,
      channel?_defaults, if_pos hchannel, Option.or_some] at hdirectory
    exact hdirectory
  · rw [parse_result, hleft]
    exact scan_left hc hsplits.fits start

def trainConfig : Config :=
  { channels := ["train"] }

/-- A joined value, a foreign pair and a value of its own, which replaces the first. -/
def trainTokens : List String :=
  ["--train=old", "--lr", "1", "--train", "new"]

theorem parse_splits_trainTokens :
    let run := (trainConfig.parse (trainConfig.defaults fun _ => none) trainTokens).result
    trainConfig.validate = .ok () ∧ ∃ d, run = .ok (d, ["--lr", "1"]) ∧
      d.channel? "train" = some "new" ∧
      (∃ parts, Splits trainConfig trainTokens parts ∧ ["--lr", "1"] = parts.flatMap Part.left) ∧
      ∀ start, (trainConfig.parse start ["--lr", "1"]).result = .ok (start, ["--lr", "1"]) := by
  have hc : trainConfig.validate = .ok () := by decide
  have hrun : (trainConfig.parse (trainConfig.defaults fun _ => none) trainTokens).result =
      .ok ({ model := "model", output := "output", channels := .ofList [("train", "new")] },
        ["--lr", "1"]) := by
    decide +kernel
  obtain ⟨parts, hsplits, hleft, -, -, -, -, -, hagain⟩ :=
    (parse_splits trainConfig hc (fun _ => none) trainTokens).2 _ _ hrun
  exact ⟨hc, _, hrun, rfl, ⟨parts, hsplits, hleft⟩, hagain⟩

end Parsing

end Hyperparams.Protocol

import Mathlib.Data.List.Dedup
import Hyperparams.Kwargs
import Hyperparams.Proofs.Lowering
import Hyperparams.Proofs.Object.Calls
import Hyperparams.Proofs.Object.Direct
import Hyperparams.Proofs.Tokenizing
import Hyperparams.Proofs.Tree.Roots

/-!
# The keyword arguments of a command line

A command line that is parsed gives one keyword argument for each plain key and for each root. The
argument of a root is the object that is built from the entries about it, whatever plain value has
the same name; the argument of any other key is the last value that was given.
-/

namespace Hyperparams

/-- A list without repetitions is as long as any list of its members without theirs. -/
theorem length_eq_length_dedup {α : Type} [DecidableEq α] {l l' : List α} (h : l.Nodup)
    (hmem : ∀ a, a ∈ l ↔ a ∈ l') : l.length = l'.dedup.length := by
  refine ((List.perm_ext_iff_of_nodup h l'.nodup_dedup).mpr fun a => ?_).length_eq
  rw [hmem, List.mem_dedup]

section Merging

variable {ω : Type} {plain : Arguments} {roots : List (String × Instance ω)} {key : String}

/-- A root comes before a plain value of the same name. -/
theorem find?_mergeKwargs (hroots : (roots.map Prod.fst).Nodup) (key : String) :
    (mergeKwargs plain roots).find? key =
      ((Sorted.find? key roots).map .object).or ((plain.get? key).map .value) := by
  have hget : plain.get? key = Sorted.find? key plain.toList :=
    Option.ext fun v => by
      rw [Arguments.get?_eq_some_iff, Sorted.find?_eq_some_iff plain.keys_nodup]
  have hplain : ((plain.toList.map fun entry => (entry.1, Argument.value (ω := ω) entry.2)).map
      Prod.fst).Nodup := by
    rw [List.map_map]
    exact plain.keys_nodup
  have hobjects : ((roots.map fun entry => (entry.1, Argument.object entry.2)).map
      Prod.fst).Nodup := by
    rw [List.map_map]
    exact hroots
  unfold mergeKwargs
  rw [Sorted.Table.find?_ofList, List.filter_append, List.getLast?_append, Option.map_or,
    Sorted.getLast?_filter_key hplain, Sorted.getLast?_filter_key hobjects, Sorted.find?_map_value,
    Sorted.find?_map_value, hget]

/-- A root is a keyword argument under its name. -/
theorem find?_mergeKwargs_of_mem (hroots : (roots.map Prod.fst).Nodup) {i : Instance ω}
    (h : (key, i) ∈ roots) : (mergeKwargs plain roots).find? key = some (.object i) := by
  rw [find?_mergeKwargs hroots, (Sorted.find?_eq_some_iff hroots).mpr h]
  rfl

/-- A plain value is a keyword argument unless a root has its key. -/
theorem find?_mergeKwargs_of_not_mem (hroots : (roots.map Prod.fst).Nodup) {v : Value}
    (hkey : key ∉ roots.map Prod.fst) (h : plain.get? key = some v) :
    (mergeKwargs plain roots).find? key = some (.value v) := by
  rw [find?_mergeKwargs hroots, Sorted.find?_eq_none_iff.mpr hkey, h]
  rfl

/-- The keyword arguments are the plain values and the roots. -/
theorem mem_keys_mergeKwargs (hroots : (roots.map Prod.fst).Nodup) :
    key ∈ (mergeKwargs plain roots).keys ↔ key ∈ plain.keys ∨ key ∈ roots.map Prod.fst := by
  rw [← not_iff_not, ← Sorted.Table.find?_eq_none_iff, find?_mergeKwargs hroots,
    Option.or_eq_none_iff, Option.map_eq_none_iff, Option.map_eq_none_iff,
    Sorted.find?_eq_none_iff, Arguments.get?_eq_none_iff, not_or, and_comm]

/-- If no root has the name of a plain value then nothing is replaced. -/
theorem size_mergeKwargs (hroots : (roots.map Prod.fst).Nodup)
    (hfree : plain.keys.Disjoint (roots.map Prod.fst)) :
    (mergeKwargs plain roots).size = plain.keys.length + (roots.map Prod.fst).length := by
  have hkeys : ((plain.toList.map fun entry => (entry.1, Argument.value (ω := ω) entry.2)) ++
      roots.map fun entry => (entry.1, Argument.object entry.2)).map Prod.fst =
        plain.keys ++ roots.map Prod.fst := by
    rw [List.map_append, List.map_map, List.map_map]
    rfl
  have hdistinct := plain.keys_nodup.append hroots hfree
  rw [← hkeys] at hdistinct
  have hperm := (Sorted.Table.ofList_perm hdistinct).map Prod.fst
  rw [hkeys] at hperm
  have hlength := hperm.length_eq
  rw [List.length_append, List.length_map] at hlength
  exact hlength

end Merging

section Roots

open Construction

variable {ω κ : Type} {calling : Calling κ ω} {registry : Registry κ}
  {prefs : Preferences.Constructing} {earlier : List (Invocation ω)}

/-- Each root is built by calls of its own, which follow each other and those for the roots
before. -/
theorem rootsConstruction_builds {roots : List Node} {instances : List (String × Instance ω)}
    (hordered : ∀ n ∈ roots, n.Ordered)
    (h : (rootsConstruction calling registry prefs roots earlier).outcome.result = .ok instances) :
    instances.map Prod.fst = roots.map Node.path ∧
      ∀ entry ∈ instances, ∃ n ∈ roots, n.path = entry.1 ∧ ∃ before calls after,
        (rootsConstruction calling registry prefs roots earlier).calls =
          before ++ calls ++ after ∧
        Builds calling registry (earlier ++ before) n calls entry.2 := by
  induction roots generalizing earlier instances with
  | nil =>
      cases h
      exact ⟨rfl, List.forall_mem_nil _⟩
  | cons n rest ih =>
      obtain ⟨hn, hrest⟩ := List.forall_mem_cons.mp hordered
      unfold rootsConstruction at h ⊢
      rw [result_bind] at h
      obtain ⟨i, hi, h⟩ := Outcome.bind_eq_ok_iff.mp h
      rw [result_bind] at h
      obtain ⟨others, hothers, h⟩ := Outcome.bind_eq_ok_iff.mp h
      cases h
      obtain ⟨hnames, hbuilt⟩ := ih hrest hothers
      rw [calls_bind_of_ok hi, calls_bind_of_ok hothers, calls_pure, List.append_nil]
      refine ⟨by rw [List.map_cons, List.map_cons, hnames],
        List.forall_mem_cons.mpr ⟨⟨n, List.mem_cons_self, rfl, [], _, _, rfl, ?_⟩,
          fun entry hentry => ?_⟩⟩
      · rw [List.append_nil]
        cases construction_follows calling registry prefs n hn [] (List.forall_mem_nil _)
            earlier with
        | done hresult _ hbuilds =>
            cases hresult.symm.trans hi
            exact hbuilds
        | stopped hresult _ => cases hresult.symm.trans hi
      · obtain ⟨m, hm, hpath, before, calls, after, hcalls, hbuilds⟩ := hbuilt entry hentry
        refine ⟨m, List.mem_cons_of_mem n hm, hpath,
          (n.construction calling registry prefs earlier).calls ++ before, calls, after, ?_, ?_⟩
        · rw [hcalls, List.append_assoc, List.append_assoc, List.append_assoc]
        · rwa [← List.append_assoc]

theorem roots_of_construction {forest : Forest} {instances : List (String × Instance ω)}
    (h : (forest.construction calling registry prefs earlier).outcome.result = .ok instances) :
    (rootsConstruction calling registry prefs forest.roots earlier).outcome.result = .ok instances ∧
      (forest.construction calling registry prefs earlier).calls =
        (rootsConstruction calling registry prefs forest.roots earlier).calls := by
  unfold Forest.construction at h ⊢
  rw [result_bind] at h
  obtain ⟨roots, hroots, h⟩ := Outcome.bind_eq_ok_iff.mp h
  cases h
  refine ⟨hroots, ?_⟩
  rw [calls_bind_of_ok hroots, calls_lift_bind rfl, calls_pure, List.append_nil]

end Roots

section Pairs

/-- The keys among some pairs that speak about no object. -/
def plainKeys (pairs : List (String × String)) : List String :=
  (pairs.map Prod.fst).filter fun key => !isCompoundKey key

/-- The names of the objects that the other keys speak about. -/
def rootNames (pairs : List (String × String)) : List String :=
  ((pairs.map Prod.fst).filter isCompoundKey).map keyRoot

/-- The compound keys among some pairs, each with the value that came last for it. -/
def compoundEntries (pairs : List (String × String)) : List (String × Value) :=
  (Arguments.ofList (inferred pairs)).toList.filter fun entry => isCompoundKey entry.1

variable {pairs : List (String × String)} {args : Arguments}

/-- A plain key has the value among the plain arguments that it had among all. -/
theorem get?_plain {key : String} (h : isCompoundKey key = false) :
    (Partition.ofArguments args).plain.get? key = args.get? key := by
  refine Option.ext fun v => ?_
  rw [Arguments.get?_eq_some_iff, Arguments.get?_eq_some_iff, Partition.toList_plain]
  simp [h]

/-- The last pair of a key counts. -/
theorem get?_inferred (h : args = Arguments.ofList (inferred pairs)) (key : String) :
    args.get? key =
      ((pairs.filter (·.1 = key)).getLast?).map fun pair => Value.infer pair.2 := by
  have hfilter : (inferred pairs).filter (·.1 = key) = inferred (pairs.filter (·.1 = key)) :=
    List.filter_map
  rw [h, Arguments.get?_ofList, hfilter, inferred, List.getLast?_map, Option.map_map]
  rfl

theorem mem_keys_inferred (h : args = Arguments.ofList (inferred pairs)) (key : String) :
    key ∈ args.keys ↔ key ∈ pairs.map Prod.fst := by
  rw [← not_iff_not, ← Arguments.get?_eq_none_iff, get?_inferred h, Option.map_eq_none_iff,
    List.getLast?_eq_none_iff, List.filter_eq_nil_iff, List.mem_map, not_exists]
  simp only [decide_eq_true_eq, not_and]

/-- A plain key is bound to the value that was given last. -/
theorem exists_last_of_mem_plainKeys {key : String} (h : args = Arguments.ofList (inferred pairs))
    (hkey : key ∈ plainKeys pairs) :
    ∃ raw, (pairs.filter (·.1 = key)).getLast? = some (key, raw) ∧
      (Partition.ofArguments args).plain.get? key = some (Value.infer raw) := by
  obtain ⟨hmem, hplain⟩ := List.mem_filter.mp hkey
  have hget := get?_inferred h key
  rw [get?_plain (by simpa using hplain)]
  cases hlast : (pairs.filter (·.1 = key)).getLast? with
  | none =>
      rw [hlast, Option.map_none, Arguments.get?_eq_none_iff, mem_keys_inferred h] at hget
      exact absurd hmem hget
  | some pair =>
      obtain ⟨key', raw⟩ := pair
      have hsame : key' = key :=
        of_decide_eq_true (List.mem_filter.mp (List.mem_of_getLast? hlast)).2
      subst hsame
      rw [hlast] at hget
      exact ⟨raw, rfl, hget⟩

theorem mem_keys_plain (h : args = Arguments.ofList (inferred pairs)) (key : String) :
    key ∈ (Partition.ofArguments args).plain.keys ↔ key ∈ plainKeys pairs := by
  unfold plainKeys
  rw [List.mem_filter, ← mem_keys_inferred h, Arguments.keys, Partition.toList_plain,
    Arguments.keys]
  simp

theorem mem_rootNames_iff (h : args = Arguments.ofList (inferred pairs)) (name : String) :
    name ∈ (Partition.ofArguments args).roots ↔ name ∈ rootNames pairs := by
  have hkeys : ∀ key, key ∈ (Partition.ofArguments args).compound.keys ↔
      key ∈ (pairs.map Prod.fst).filter isCompoundKey := by
    intro key
    rw [List.mem_filter, ← mem_keys_inferred h, Arguments.keys, Partition.toList_compound,
      Arguments.keys]
    simp
  unfold Partition.roots rootNames
  simp only [List.mem_map, hkeys]

/-- A forest of the compound keys says what they say, and has a root for each name that they begin
with. -/
theorem regroups_compoundEntries {prefs : Preferences.Building} {forest : Forest}
    (h : args = Arguments.ofList (inferred pairs))
    (hforest : (Forest.build prefs (Partition.ofArguments args).compound).result = .ok forest) :
    Forest.Regroups (compoundEntries pairs) forest ∧
      ∀ name, name ∈ forest.roots.map Node.path ↔ name ∈ rootNames pairs := by
  have hentries : (Partition.ofArguments args).compound.toList = compoundEntries pairs := by
    rw [Partition.toList_compound, h]
    rfl
  obtain ⟨classes, hbuilt⟩ := Forest.exists_built hforest
  have hregroups := hbuilt.regroups (Forest.owners_nodup (Arguments.keys_nodup _))
  have hacceptable := Forest.acceptable_of_build hforest
  rw [hentries] at hregroups hacceptable
  refine ⟨hregroups, fun name => ?_⟩
  -- a root is declared by a key, and a key that speaks about no root would be refused
  rw [hregroups.roots, ← mem_rootNames_iff h]
  unfold Partition.roots Arguments.keys
  rw [hentries]
  exact hacceptable.mem_rootOwners_iff fun entry hentry => (List.mem_filter.mp hentry).2

end Pairs

section Parsing

open Construction

variable {ω κ : Type}

def Construction.mapError {ε ε' α : Type} (f : ε → ε') (x : Construction ω ε α) :
    Construction ω ε' α :=
  fun earlier => ⟨(x earlier).calls, (x earlier).outcome.mapError f⟩

/-- Parse hyperparameters, with constructors that may remember their calls. -/
def parsing (calling : Calling κ ω) (registry : Registry κ) (prefs : Preferences)
    (elapsed : String) (tokens : List String) : Construction ω HyperparameterError (Parsed ω) := do
  let lowered ← .lift ((lower prefs elapsed tokens).mapError .lowering)
  let roots ← (lowered.forest.construction calling registry prefs.constructing).mapError .materialize
  return { kwargs := mergeKwargs lowered.plain roots, warnings := lowered.warnings }

theorem Construction.outcome_bind {ε α β : Type} (x : Construction ω ε α)
    (f : α → Construction ω ε β) (earlier : List (Invocation ω)) :
    ((x >>= f) earlier).outcome =
      (x earlier).outcome >>= fun a => (f a (earlier ++ (x earlier).calls)).outcome := by
  change (andThen x f earlier).outcome = Log.Traced.andThen _ _
  unfold andThen Log.Traced.andThen
  dsimp only
  cases (x earlier).outcome.result <;> rfl

/-- Constructors that remember nothing are a special case. -/
theorem run_parsing_direct (registry : Registry (Constructor ω)) (prefs : Preferences)
    (elapsed : String) (tokens : List String) :
    (parsing .direct registry prefs elapsed tokens).run =
      parse registry prefs elapsed tokens := by
  unfold parsing parse run
  rw [outcome_bind]
  refine congrArg (bind _) (funext fun lowered => ?_)
  exact outcome_bind _ _ _

/-- An instance is built from entries: from the node that says what they say, by some of the calls
that were made after earlier ones. -/
def BuiltFrom (calling : Calling κ ω) (registry : Registry κ) (earlier made : List (Invocation ω))
    (root : String) (entries : List (String × Value)) (i : Instance ω) : Prop :=
  ∃ n before calls after, n.path = root ∧ Forest.Regroups entries ⟨[n]⟩ ∧
    made = before ++ calls ++ after ∧ Builds calling registry (earlier ++ before) n calls i

variable {calling : Calling κ ω} {registry : Registry κ} {prefs : Preferences} {elapsed : String}
  {tokens : List String} {earlier : List (Invocation ω)} {parsed : Parsed ω}

/-- What parsing gives comes from the stages of lowering and from the roots that are built. -/
theorem exists_stages_of_parsing
    (h : (parsing calling registry prefs elapsed tokens earlier).outcome.result = .ok parsed) :
    ∃ t forest roots, (tokenize prefs.tokenizing tokens).result = .ok t ∧
      (prefs.building.rejectConflictingKeys = true →
        (Partition.ofArguments t.args).conflict? = none) ∧
      (Forest.build prefs.building (Partition.ofArguments t.args).compound).result = .ok forest ∧
      (rootsConstruction calling registry prefs.constructing forest.roots
        earlier).outcome.result = .ok roots ∧
      (parsing calling registry prefs elapsed tokens earlier).calls =
        (rootsConstruction calling registry prefs.constructing forest.roots earlier).calls ∧
      parsed.kwargs = mergeKwargs (Partition.ofArguments t.args).plain roots := by
  unfold parsing at h ⊢
  rw [result_bind] at h
  obtain ⟨lowered, hlowered, h⟩ := Outcome.bind_eq_ok_iff.mp h
  rw [calls_lift, List.append_nil, result_bind] at h
  obtain ⟨roots, hroots, h⟩ := Outcome.bind_eq_ok_iff.mp h
  cases h
  obtain ⟨t, forest, ht, hfree, hforest, rfl⟩ :=
    lower_result_eq_ok_iff.mp (Outcome.mapError_eq_ok_iff.mp hlowered)
  obtain ⟨hbuilt, hcalls⟩ := roots_of_construction (Outcome.mapError_eq_ok_iff.mp hroots)
  refine ⟨t, forest, roots, ht, hfree, hforest, hbuilt, ?_, rfl⟩
  rw [outcome_lift] at hlowered
  rw [calls_lift_bind hlowered, calls_bind_of_ok hroots, calls_pure, List.append_nil]
  exact hcalls

/-- A command line that is parsed has one argument for each plain key and each root. That of a root
is built from the entries about it, and that of any other key is the last value given. If conflicts
are refused then no key is also a root, so there are as many arguments as keys and roots. -/
theorem parsing_binds
    (h : (parsing calling registry prefs elapsed tokens earlier).outcome.result = .ok parsed) :
    ∃ pairs, flagTokens pairs = tokens ∧
      (∀ key, key ∈ parsed.kwargs.keys ↔ key ∈ plainKeys pairs ∨ key ∈ rootNames pairs) ∧
      (∀ root ∈ rootNames pairs, ∃ i, parsed.kwargs.find? root = some (.object i) ∧
        BuiltFrom calling registry earlier
          (parsing calling registry prefs elapsed tokens earlier).calls root
          (Forest.entriesUnder root (compoundEntries pairs)) i) ∧
      (∀ key ∈ plainKeys pairs, key ∉ rootNames pairs → ∃ raw,
        (pairs.filter (·.1 = key)).getLast? = some (key, raw) ∧
          parsed.kwargs.find? key = some (.value (.infer raw))) ∧
      (prefs.building.rejectConflictingKeys = true →
        (plainKeys pairs).Disjoint (rootNames pairs) ∧ parsed.kwargs.size =
          (plainKeys pairs).dedup.length + (rootNames pairs).dedup.length) := by
  obtain ⟨t, forest, roots, ht, hfree, hforest, hroots, hcalls, hkwargs⟩ :=
    exists_stages_of_parsing h
  obtain ⟨pairs, rfl, -⟩ := wellFormedTokens_iff.mp (exists_tokenize_iff.mp ⟨t, ht⟩)
  have hargs := (tokenize_flagTokens_ok_iff.mp ⟨t, ht, rfl⟩).2
  obtain ⟨hregroups, hrootNames⟩ := regroups_compoundEntries hargs hforest
  obtain ⟨hnames, hinstances⟩ :=
    rootsConstruction_builds (Forest.ordered_of_build hforest) hroots
  rw [← hnames] at hrootNames
  have hnodup : (roots.map Prod.fst).Nodup := by
    rw [hnames]
    exact hregroups.distinct.sublist (forest.roots_sublist.map _)
  refine ⟨pairs, rfl, ?_, ?_, ?_, ?_⟩
  · intro key
    rw [hkwargs, mem_keys_mergeKwargs hnodup, mem_keys_plain hargs, hrootNames]
  · intro root hroot
    obtain ⟨⟨name, i⟩, hentry, rfl⟩ := List.mem_map.mp ((hrootNames root).mpr hroot)
    obtain ⟨n, hn, hpath, before, calls, after, hmade, hbuilds⟩ := hinstances _ hentry
    refine ⟨i, hkwargs ▸ find?_mergeKwargs_of_mem hnodup hentry, n, before, calls, after, hpath, ?_,
      hcalls.trans hmade, hbuilds⟩
    exact hpath ▸ hregroups.under hn
  · intro key hkey hother
    obtain ⟨raw, hlast, hget⟩ := exists_last_of_mem_plainKeys hargs hkey
    refine ⟨raw, hlast, hkwargs ▸ find?_mergeKwargs_of_not_mem hnodup ?_ hget⟩
    exact mt (hrootNames key).mp hother
  · intro hreject
    have hdisjoint : (plainKeys pairs).Disjoint (rootNames pairs) := by
      intro key hkey hroot
      have hconflict := Partition.conflict?_eq_none_iff.mp (hfree hreject) key
        ((mem_keys_plain hargs key).mpr hkey)
      exact hconflict ((mem_rootNames_iff hargs key).mpr hroot)
    refine ⟨hdisjoint, ?_⟩
    have hfreeKeys : (Partition.ofArguments t.args).plain.keys.Disjoint (roots.map Prod.fst) := by
      intro key hkey hroot
      exact hdisjoint ((mem_keys_plain hargs key).mp hkey) ((hrootNames key).mp hroot)
    rw [hkwargs, size_mergeKwargs hnodup hfreeKeys,
      length_eq_length_dedup (Arguments.keys_nodup _) (mem_keys_plain hargs),
      length_eq_length_dedup hnodup hrootNames]

def plainAndRoot : List (String × String) :=
  [("lr", "1"), ("net.__class__", "Net")]

def netRegistry : Registry (Constructor Unit) :=
  { classes := .ofList [("Net", ⟨fun _ => .ok (), "08:00"⟩)], created := "08:00" }

theorem lower_plainAndRoot :
    ∃ l, (lower {} "0" (flagTokens plainAndRoot)).result = .ok l ∧
      l.forest.roots = [.mk "net" "Net" []] := by
  have htokenizable : Tokenizable plainAndRoot := by
    refine ⟨show 4 ≤ Limits.tokenCount by decide, ?_⟩
    refine List.forall_mem_cons.mpr ⟨?_, List.forall_mem_singleton.mpr ?_⟩
    · exact ⟨by decide, by decide, by decide⟩
    · exact ⟨by decide, by decide, by decide⟩
  have hlist : (Arguments.ofList (inferred plainAndRoot)).toList =
      [("lr", .int 1), ("net.__class__", .str "Net")] := by
    have hdistinct : ((inferred plainAndRoot).map Prod.fst).Nodup :=
      show ["lr", "net.__class__"].Nodup by decide
    exact Arguments.toList_ofList hdistinct
  have hbuild : ∀ c : Arguments, c.toList = [("net.__class__", .str "Net")] →
      (Forest.build ({} : Preferences).building c).result =
        .ok { roots := [.mk "net" "Net" []] } := by
    intro c hc
    have hnested : Forest.nestedPaths [Node.new "net" "Net"] = [] := by decide +kernel
    rw [Forest.build_result_eq_ok_iff, hc]
    refine ⟨[.new "net" "Net"], [.new "net" "Net"], rfl, rfl, ?_⟩
    rw [hnested]
    rfl
  obtain ⟨l, hlower, -, hforest⟩ := exists_lower_of_entries htokenizable hlist (by decide) hbuild
  exact ⟨l, hlower, congrArg Forest.roots hforest⟩

/-- A plain key and a root become two keyword arguments. -/
theorem parsing_binds_plainAndRoot :
    ∃ parsed, (parse netRegistry {} "0" (flagTokens plainAndRoot)).result = .ok parsed ∧
      ∃ pairs, flagTokens pairs = flagTokens plainAndRoot ∧
        (∀ key, key ∈ parsed.kwargs.keys ↔ key ∈ plainKeys pairs ∨ key ∈ rootNames pairs) ∧
        (plainKeys pairs).Disjoint (rootNames pairs) := by
  obtain ⟨l, hlower, hroots⟩ := lower_plainAndRoot
  have hbuilt : (l.forest.materialize netRegistry {}).result =
      .ok [("net", { classRef := "Net", origin := "net", object := () })] := by
    rw [materialize_forest_result, hroots]
    rfl
  have hparse : ∃ parsed,
      (parse netRegistry {} "0" (flagTokens plainAndRoot)).result = .ok parsed := by
    unfold parse
    simp only [Log.Traced.result_bind, Log.Traced.result_mapError]
    exact ⟨_, Outcome.bind_eq_ok_iff.mpr ⟨l, Outcome.mapError_eq_ok_iff.mpr hlower,
      Outcome.bind_eq_ok_iff.mpr ⟨_, Outcome.mapError_eq_ok_iff.mpr hbuilt, rfl⟩⟩⟩
  obtain ⟨parsed, hparsed⟩ := hparse
  refine ⟨parsed, hparsed, ?_⟩
  rw [← run_parsing_direct] at hparsed
  obtain ⟨pairs, hpairs, hkeys, -, -, hfree⟩ := parsing_binds hparsed
  exact ⟨pairs, hpairs, hkeys, (hfree rfl).1⟩

end Parsing

end Hyperparams

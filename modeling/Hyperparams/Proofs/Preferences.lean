import Hyperparams.Proofs.Lowering
import Hyperparams.Proofs.Tree.Regrouping

/-!
# What preferences decide

Preferences choose what is reported, whether values are counted by kind and whether plain keys may
also be the roots of objects. Reporting decides nothing: with the same choice about plain keys the
same tokens are lowered to the same values and objects or refused with the same error. Refusing
plain keys that are roots comes before all that the builder of objects has to say, and changes
nothing where there is no such key.
-/

namespace Hyperparams

open Log.Traced (result_bind)

namespace Forest

section Reporting

variable (prefs prefs' : Preferences.Building)

/-- Preferences do not matter to what comes of attaching. -/
theorem attach_result_congr (nodes : List Node) (path : String) :
    (attach prefs nodes path).result = (attach prefs' nodes path).result := by
  have hreport : ∀ (log : Bool) (event : Log.Event) (next : Log.Traced TreeError (List Node)),
      (if log then do Log.Traced.emit event; next else next).result = next.result := by
    intro log event next
    cases log with
    | true =>
        rw [if_pos rfl, result_bind]
        rfl
    | false => rfl
  unfold attach
  split
  · simp only [result_bind, Log.Traced.result_ofExcept]
    congr
    funext slot
    split
    · rfl
    · rw [hreport, hreport]
  · rfl

theorem attachAll_result_congr (paths : List String) (nodes : List Node) :
    (attachAll prefs nodes paths).result = (attachAll prefs' nodes paths).result := by
  induction paths generalizing nodes with
  | nil => rfl
  | cons path rest ih => simp only [attachAll, result_bind, ih, attach_result_congr prefs prefs']

/-- Preferences do not matter to the forest that is built. -/
theorem build_result_congr (c : Arguments) :
    (build prefs c).result = (build prefs' c).result := by
  simp only [build_result, ofCompound, result_bind, attachAll_result_congr prefs prefs']

end Reporting

end Forest

namespace Tokenized

variable {γ : Type} {f : Tokenized → γ} {prefs prefs' : Preferences.Tokenizing} {t t' : Tokenized}

def untallied (t : Tokenized) : Tokenized :=
  { t with metrics := { t.metrics with typeCounts := ∅ } }

theorem untallied_accept (prefs prefs' : Preferences.Tokenizing) {key raw : String}
    {position : Nat} (h : t.untallied = t'.untallied) :
    (t.accept prefs key raw position).untallied =
      (t'.accept prefs' key raw position).untallied := by
  -- counting by kind is the only thing that the preferences turn on, and it is left out
  have hnone : ∀ (p : Preferences.Tokenizing) (u : Tokenized),
      (u.accept p key raw position).untallied =
        u.untallied.accept { collectTypeMetrics := false } key raw position := fun _ _ => rfl
  rw [hnone, hnone, h]

/-- One preference matters when a pair is taken. -/
theorem accept_congr (h : prefs.collectTypeMetrics = prefs'.collectTypeMetrics) (t : Tokenized)
    (key raw : String) (position : Nat) :
    t.accept prefs key raw position = t.accept prefs' key raw position := by
  unfold accept
  rw [h]

/-- Two runs over the same tokens end in the same way, and agree on whatever each pair keeps them
agreeing on. -/
theorem scan_congr
    (haccept : ∀ t t' : Tokenized, ∀ key raw position, f t = f t' →
      f (t.accept prefs key raw position) = f (t'.accept prefs' key raw position))
    (h : f t = f t') (position : Nat) (tokens : List String) :
    (t.scan prefs position tokens).2.result = (t'.scan prefs' position tokens).2.result ∧
      f (t.scan prefs position tokens).1 = f (t'.scan prefs' position tokens).1 := by
  fun_induction scan prefs t position tokens generalizing t' with
  | case1 t position => exact ⟨rfl, h⟩
  | case2 t position flag rest e hkey =>
      rw [scan, hkey]
      exact ⟨rfl, h⟩
  | case3 t position flag key hkey =>
      rw [scan, hkey]
      exact ⟨rfl, h⟩
  | case4 t position flag key hkey raw rest hlong =>
      rw [scan, hkey]
      dsimp only
      rw [if_pos hlong]
      exact ⟨rfl, h⟩
  | case5 t position flag key hkey raw rest hshort next outcome hscan ih =>
      have hrest := ih (haccept t t' key raw position h)
      rw [hscan] at hrest
      rw [scan, hkey]
      dsimp only
      rw [if_neg hshort]
      exact hrest

end Tokenized

section Tokens

open Tokenized

variable {prefs prefs' : Preferences.Tokenizing}

theorem tokenize_map_congr {γ : Type} {f : Tokenized → γ}
    (haccept : ∀ t t' : Tokenized, ∀ key raw position, f t = f t' →
      f (t.accept prefs key raw position) = f (t'.accept prefs' key raw position))
    (tokens : List String) :
    (tokenize prefs tokens).result.map f = (tokenize prefs' tokens).result.map f := by
  unfold tokenize Tokenizer.run
  dsimp only
  split
  · rfl
  · obtain ⟨hresult, hgathered⟩ := scan_congr (t := { metrics := { tokenCount := tokens.length } })
      haccept rfl 0 tokens
    simp only [result_bind, hresult]
    cases (scan prefs' _ 0 tokens).2.result with
    | error e => rfl
    | ok u => exact congrArg Except.ok hgathered

/-- One preference matters to the result of the tokenizer. -/
theorem tokenize_result_congr (h : prefs.collectTypeMetrics = prefs'.collectTypeMetrics)
    (tokens : List String) : (tokenize prefs tokens).result = (tokenize prefs' tokens).result := by
  have haccept : ∀ t t' : Tokenized, ∀ key raw position, id t = id t' →
      id (t.accept prefs key raw position) = id (t'.accept prefs' key raw position) := by
    rintro t _ key raw position rfl
    exact accept_congr h t key raw position
  simpa only [Except.map_id, id] using tokenize_map_congr haccept tokens

/-- Distinct keys are kept as they come. -/
theorem keys_of_tokenize {pairs : List (String × String)} {t : Tokenized}
    (hdistinct : (pairs.map Prod.fst).Nodup)
    (h : (tokenize prefs (flagTokens pairs)).result = .ok t) :
    t.args.keys = pairs.map Prod.fst := by
  have hkeys : (inferred pairs).map Prod.fst = pairs.map Prod.fst := by
    simp [inferred]
  obtain ⟨-, hargs⟩ := tokenize_flagTokens_ok_iff.mp ⟨t, h, rfl⟩
  rw [hargs, Arguments.keys, Arguments.toList_ofList (hkeys ▸ hdistinct), hkeys]

end Tokens

theorem Partition.checked_result (args : Arguments) :
    (Partition.checked args).result = match (Partition.ofArguments args).conflict? with
      | some key => .error (.conflictingKeys key)
      | none => .ok (Partition.ofArguments args) := by
  rw [Partition.checked, result_bind, Partition.check]
  cases (Partition.ofArguments args).conflict? <;> rfl

namespace Lowered

def untallied (l : Lowered) : Lowered :=
  { l with metrics := { l.metrics with typeCounts := ∅ } }

def ofTokenized (reject : Bool) (t : Tokenized) : Except LoweringError Lowered :=
  match reject, (Partition.ofArguments t.args).conflict? with
  | true, some key => .error (.partition (.conflictingKeys key))
  | _, _ =>
    (ofStages t ·) <$>
      (Forest.build {} (Partition.ofArguments t.args).compound).result.mapError .tree

/-- Lowering is tokenizing, followed by the stages behind it. -/
theorem lower_result (prefs : Preferences) (elapsed : String) (tokens : List String) :
    (lower prefs elapsed tokens).result =
      (tokenize prefs.tokenizing tokens).result.mapError .tokens >>=
        ofTokenized prefs.building.rejectConflictingKeys := by
  have hbuilt : ∀ t : Tokenized,
      (do
        let forest ← (Forest.build prefs.building
          (Partition.ofArguments t.args).compound).mapError .tree
        Log.Traced.emit ((ofStages t forest).event elapsed)
        return ofStages t forest : Log.Traced LoweringError Lowered).result =
      (ofStages t ·) <$>
        (Forest.build {} (Partition.ofArguments t.args).compound).result.mapError .tree := by
    intro t
    rw [result_bind, Log.Traced.result_mapError, Forest.build_result_congr prefs.building {}]
    cases (Forest.build {} (Partition.ofArguments t.args).compound).result <;> rfl
  rw [lower, result_bind, Log.Traced.result_emit]
  change (Log.Traced.result (_ >>= _)) = _
  rw [result_bind, Log.Traced.result_mapError]
  congr
  funext t
  unfold ofTokenized
  rw [← hbuilt]
  cases prefs.building.rejectConflictingKeys with
  | false => rfl
  | true =>
      rw [if_pos rfl, result_bind, Log.Traced.result_mapError, Partition.checked_result]
      cases (Partition.ofArguments t.args).conflict? <;> rfl

/-- Counting by kind decides nothing behind the tokenizer. -/
theorem map_untallied_ofTokenized (reject : Bool) (r : Except TokenError Tokenized) :
    (r.mapError .tokens >>= ofTokenized reject).map untallied =
      (r.map Tokenized.untallied).mapError .tokens >>= ofTokenized reject := by
  cases r with
  | error e => rfl
  | ok t =>
      have hargs : t.untallied.args = t.args := rfl
      have hstages : ∀ built : Except LoweringError Forest,
          ((ofStages t ·) <$> built).map untallied = (ofStages t.untallied ·) <$> built := by
        intro built
        cases built <;> rfl
      change (ofTokenized reject t).map untallied = ofTokenized reject t.untallied
      unfold ofTokenized
      rw [hargs]
      split
      · rfl
      · exact hstages _

theorem ofTokenized_of_conflict {t : Tokenized} {key : String}
    (h : (Partition.ofArguments t.args).conflict? = some key) :
    ofTokenized true t = .error (.partition (.conflictingKeys key)) := by
  simp only [ofTokenized, h]

/-- Where there is no conflict, refusing conflicts makes no difference. -/
theorem ofTokenized_of_free {t : Tokenized} (h : (Partition.ofArguments t.args).conflict? = none) :
    ofTokenized true t = ofTokenized false t := by
  simp only [ofTokenized, h]

end Lowered

/-- Whether a plain key is also the first segment of a compound key. -/
def Shadows (keys : List String) (key : String) : Prop :=
  isCompoundKey key = false ∧ ∃ other ∈ keys, isCompoundKey other = true ∧ keyRoot other = key

/-- The first of some keys that shadows the root of an object. -/
def FirstShadow (keys : List String) (key : String) : Prop :=
  ∃ before after, keys = before ++ key :: after ∧ Shadows keys key ∧
    ∀ earlier ∈ before, ¬ Shadows keys earlier

section Shadows

variable {args : Arguments} {key : String}

/-- The roots are the first segments of the compound keys. -/
theorem Partition.mem_roots_iff :
    key ∈ (Partition.ofArguments args).roots ↔
      ∃ other ∈ args.keys, isCompoundKey other = true ∧ keyRoot other = key := by
  unfold Partition.roots Arguments.keys
  rw [toList_compound]
  simp only [List.mem_map, List.mem_filter]
  constructor
  · rintro ⟨other, ⟨entry, ⟨hentry, hcompound⟩, rfl⟩, hroot⟩
    exact ⟨entry.1, ⟨entry, hentry, rfl⟩, hcompound, hroot⟩
  · rintro ⟨other, ⟨entry, hentry, rfl⟩, hcompound, hroot⟩
    exact ⟨entry.1, ⟨entry, ⟨hentry, hcompound⟩, rfl⟩, hroot⟩

theorem Partition.keys_plain (args : Arguments) :
    (Partition.ofArguments args).plain.keys = args.keys.filter fun key => !isCompoundKey key := by
  unfold Arguments.keys
  rw [toList_plain, List.filter_map]
  rfl

/-- The conflict that is found is the first plain key that shadows an object. -/
theorem Partition.conflict?_eq_some_iff :
    (Partition.ofArguments args).conflict? = some key ↔ FirstShadow args.keys key := by
  have hshadows : ∀ k, (isCompoundKey k = false ∧
      (Std.HashSet.ofList (Partition.ofArguments args).roots).contains k = true) ↔
        Shadows args.keys k := by
    intro k
    rw [Std.HashSet.contains_ofList, List.contains_iff_mem, mem_roots_iff]
    rfl
  unfold conflict? FirstShadow
  dsimp only
  rw [keys_plain, List.find?_filter, List.find?_eq_some_iff_append]
  simp only [Bool.not_eq_true', decide_eq_true_eq, decide_eq_false_iff_not, hshadows]
  constructor
  · rintro ⟨hkey, before, after, hkeys, hbefore⟩
    exact ⟨before, after, hkeys, hkey, hbefore⟩
  · rintro ⟨before, after, hkeys, hkey, hbefore⟩
    exact ⟨hkey, before, after, hkeys, hbefore⟩

theorem Partition.exists_conflict? (hmem : key ∈ args.keys) (h : Shadows args.keys key) :
    ∃ first, (Partition.ofArguments args).conflict? = some first := by
  rw [← Option.isSome_iff_exists, Option.isSome_iff_ne_none, ne_eq, conflict?_eq_none_iff]
  intro hfree
  refine hfree key ?_ (mem_roots_iff.mpr h.2)
  rw [keys_plain]
  exact List.mem_filter.mpr ⟨hmem, by rw [h.1]; rfl⟩

end Shadows

section Choices

def Preferences.rejecting (prefs : Preferences) (reject : Bool) : Preferences :=
  { prefs with building := { prefs.building with rejectConflictingKeys := reject } }

/-- Apart from the number of values of each kind, the result of lowering only depends on whether
plain keys that are roots are refused, and that number only on whether it is counted. Refusing such
keys makes a difference exactly where there is one: then the first of them is named, whatever else
there is to say about the objects. -/
theorem lowering_determined (prefs prefs' : Preferences) (elapsed elapsed' : String)
    (tokens : List String) :
    (prefs.building.rejectConflictingKeys = prefs'.building.rejectConflictingKeys →
      (lower prefs elapsed tokens).result.map Lowered.untallied =
          (lower prefs' elapsed' tokens).result.map Lowered.untallied ∧
        (prefs.tokenizing.collectTypeMetrics = prefs'.tokenizing.collectTypeMetrics →
          (lower prefs elapsed tokens).result = (lower prefs' elapsed' tokens).result)) ∧
    (∀ t, (tokenize prefs.tokenizing tokens).result = .ok t →
      (∃ key ∈ t.args.keys, Shadows t.args.keys key) →
        ∃ first, FirstShadow t.args.keys first ∧
          (lower (prefs.rejecting true) elapsed tokens).result =
            .error (.partition (.conflictingKeys first))) ∧
    ((∀ t, (tokenize prefs.tokenizing tokens).result = .ok t →
      ∀ key ∈ t.args.keys, ¬ Shadows t.args.keys key) →
        (lower (prefs.rejecting true) elapsed tokens).result =
          (lower (prefs.rejecting false) elapsed tokens).result) := by
  have hstages : ∀ reject, (lower (prefs.rejecting reject) elapsed tokens).result =
      (tokenize prefs.tokenizing tokens).result.mapError .tokens >>= Lowered.ofTokenized reject :=
    fun reject => Lowered.lower_result (prefs.rejecting reject) elapsed tokens
  refine ⟨fun hreject => ⟨?_, fun hcollect => ?_⟩, ?_, fun hfree => ?_⟩
  · rw [Lowered.lower_result, Lowered.lower_result, hreject, Lowered.map_untallied_ofTokenized,
      Lowered.map_untallied_ofTokenized]
    rw [tokenize_map_congr fun _ _ _ _ _ => Tokenized.untallied_accept _ _]
  · rw [Lowered.lower_result, Lowered.lower_result, hreject, tokenize_result_congr hcollect]
  · rintro t ht ⟨key, hmem, hshadows⟩
    obtain ⟨first, hfirst⟩ := Partition.exists_conflict? hmem hshadows
    refine ⟨first, Partition.conflict?_eq_some_iff.mp hfirst, ?_⟩
    rw [hstages, ht]
    exact Lowered.ofTokenized_of_conflict hfirst
  · rw [hstages, hstages]
    cases ht : (tokenize prefs.tokenizing tokens).result with
    | error e => rfl
    | ok t =>
        refine Lowered.ofTokenized_of_free (Option.eq_none_iff_forall_ne_some.mpr ?_)
        intro key hkey
        obtain ⟨before, after, hkeys, hshadows, -⟩ := Partition.conflict?_eq_some_iff.mp hkey
        exact hfree t ht key (hkeys ▸ List.mem_append_right before List.mem_cons_self) hshadows

def shadowingPairs : List (String × String) :=
  [("net.width", "2"), ("net", "1")]

def reportingPreferences : Preferences where
  tokenizing := { collectTypeMetrics := false, logInferredValues := true }
  building := { logThreadingDetails := true }

theorem tokenizable_shadowingPairs : Tokenizable shadowingPairs := by
  refine ⟨show 4 ≤ Limits.tokenCount by decide, ?_⟩
  refine List.forall_mem_cons.mpr ⟨?_, List.forall_mem_singleton.mpr ?_⟩
  · exact ⟨by decide, by decide, by decide⟩
  · exact ⟨by decide, by decide, by decide⟩

/-- What is reported does not matter, and the key that shadows is named. -/
theorem lowering_determined_shadowing :
    (lower reportingPreferences "1" (flagTokens shadowingPairs)).result.map Lowered.untallied =
        (lower {} "0" (flagTokens shadowingPairs)).result.map Lowered.untallied ∧
      (lower { building := { logThreadingDetails := true } } "1" (flagTokens shadowingPairs)).result =
        (lower {} "0" (flagTokens shadowingPairs)).result ∧
      (lower {} "0" (flagTokens shadowingPairs)).result =
        .error (.partition (.conflictingKeys "net")) ∧
      (lower (({} : Preferences).rejecting true) "0" ["--net.width", "2"]).result =
        (lower (({} : Preferences).rejecting false) "0" ["--net.width", "2"]).result := by
  obtain ⟨hreporting, -, -⟩ :=
    lowering_determined reportingPreferences {} "1" "0" (flagTokens shadowingPairs)
  obtain ⟨hcounting, -, -⟩ := lowering_determined
    { building := { logThreadingDetails := true } } {} "1" "0" (flagTokens shadowingPairs)
  obtain ⟨-, hshadowed, -⟩ := lowering_determined {} {} "0" "0" (flagTokens shadowingPairs)
  obtain ⟨-, -, hfree⟩ := lowering_determined {} {} "0" "0" (flagTokens [("net.width", "2")])
  refine ⟨(hreporting rfl).1, (hcounting rfl).2 rfl, ?_, hfree fun t ht => ?_⟩
  · obtain ⟨t, ht, -⟩ := tokenize_flagTokens_ok_iff.mpr ⟨tokenizable_shadowingPairs, rfl⟩
    have hkeys : t.args.keys = ["net.width", "net"] := keys_of_tokenize (by decide) ht
    have hshadows : Shadows t.args.keys "net" := by
      rw [hkeys]
      exact ⟨by decide, "net.width", List.mem_cons_self, by decide, by decide⟩
    obtain ⟨first, ⟨before, after, hsplit, ⟨hplain, -⟩, -⟩, hresult⟩ :=
      hshadowed t ht ⟨"net", by rw [hkeys]; decide, hshadows⟩
    have hmem : first ∈ ["net.width", "net"] :=
      hkeys ▸ hsplit ▸ List.mem_append_right before List.mem_cons_self
    have hfirst : first = "net" := by
      rcases List.mem_cons.mp hmem with rfl | hmem
      · exact absurd hplain (by decide)
      · exact List.mem_singleton.mp hmem
    rw [← hfirst]
    exact hresult
  · have hkeys : t.args.keys = ["net.width"] := keys_of_tokenize (by decide) ht
    rw [hkeys]
    rintro key hmem ⟨hplain, -⟩
    rw [List.mem_singleton.mp hmem] at hplain
    exact absurd hplain (by decide)

end Choices

end Hyperparams

import Hyperparams.Proofs.Object.Builtins
import Hyperparams.Proofs.PairsBelow

/-!
# Calling a class with the arguments of a command line

A class can be called with the keyword arguments of a command line, or it can be written on the
command line itself, as the class of one root that has the other keys below it. Both ways the same
objects are built, at paths that begin with the root or not. The path of an object is its identity,
so this is for constructors that use identities only to tell objects apart.
-/

namespace Hyperparams

open Outcome

variable {ω : Type} {registry : Registry (Constructor ω)} {prefs : Preferences.Constructing}

/-- A call resolves its class and then calls the constructor with the named arguments. -/
theorem invoke_result (registry : Registry (Constructor ω)) (classRef : String)
    (named : Kwargs ω) :
    (invoke registry classRef named).result = (do
      let make ← (resolve registry classRef classRef).result
      builtBy registry classRef make (.new classRef [] named)) := by
  unfold invoke invocation Construction.run
  rw [Construction.result_bind, Construction.outcome_lift]
  exact congrArg (bind _) (funext fun make => construct_direct _ _ _ _ _ _)

theorem invoke_of_resolve {classRef : String} {make : Constructor ω}
    (h : registry.resolve? classRef = some make) (named : Kwargs ω) :
    (invoke registry classRef named).result =
      builtBy registry classRef make (.new classRef [] named) := by
  rw [invoke_result, resolve, h]
  rfl

section Gathering

variable {plain : Arguments}

/-- Plain values are arguments as they are. -/
theorem mapM_plain (entries : List (String × Value)) :
    (entries.map fun entry => (entry.1, Item.value entry.2)).mapM
        (fun entry => (entry.1, ·) <$> entry.2.materialize registry prefs) =
      .ok (entries.map fun entry => (entry.1, .value entry.2)) := by
  induction entries with
  | nil => rfl
  | cons entry rest ih =>
      rw [List.map_cons, List.mapM_cons, ih]
      rfl

/-- Roots are built as the items that they are. -/
theorem agree_mapM_roots (f : Forest) :
    Agree (fun roots arguments => arguments = roots.map fun entry => (entry.1, .object entry.2))
      (f.materialize registry prefs).result
      ((f.roots.map fun n => (n.path, Item.node n)).mapM fun entry =>
        (entry.1, ·) <$> entry.2.materialize registry prefs) := by
  rw [materialize_forest_result, List.mapM_map]
  refine agree_mapM fun n _ => ?_
  rw [Function.comp_apply, Item.materialize]
  cases (n.materialize registry prefs).result with
  | error e => trivial
  | ok i => exact rfl

/-- Keyword arguments come from the items for names, which are built one by one. -/
theorem agree_keywords (f : Forest) (hdistinct : (plain.keys ++ f.roots.map Node.path).Nodup) :
    Agree (fun roots named => named = (mergeKwargs plain roots).entries)
      (f.materialize registry prefs).result
      ((Node.keywordItems plain.toList f.roots).mapM fun entry =>
        (entry.1, ·) <$> entry.2.materialize registry prefs) := by
  have hunsorted : Agree (fun roots (arguments : List (String × Argument ω)) => arguments =
        (plain.toList.map fun entry => (entry.1, Argument.value entry.2)) ++
          roots.map fun entry => (entry.1, Argument.object entry.2))
      (f.materialize registry prefs).result
      (((plain.toList.map fun entry => (entry.1, Item.value entry.2)) ++
        f.roots.map fun n => (n.path, Item.node n)).mapM fun entry =>
          (entry.1, ·) <$> entry.2.materialize registry prefs) := by
    rw [List.mapM_append, mapM_plain, ← bind_pure (f.materialize registry prefs).result]
    exact (agree_mapM_roots f).bind fun roots arguments harguments => congrArg _ harguments
  -- the order in which items are built only decides which of their errors is met
  refine (hunsorted.trans (agree_mapM_of_perm (Forest.keywordItems_perm hdistinct).symm)).imp ?_
  rintro roots named hroots hnamed ⟨_, rfl, hperm⟩
  have hnames : (((plain.toList.map fun entry => (entry.1, Argument.value (ω := ω) entry.2)) ++
      roots.map fun entry => (entry.1, Argument.object entry.2)).map Prod.fst).Nodup := by
    rw [materialize_forest_result] at hroots
    rw [List.map_append, List.map_map, List.map_map]
    exact names_of_mapM hroots ▸ hdistinct
  refine Sorted.Ascending.eq_of_perm ?_ (mergeKwargs plain roots).ascending
    (hperm.symm.trans (Sorted.Table.ofList_perm hnames).symm)
  exact (Sorted.ascending_iff_of_keys (keys_of_mapM hnamed)).mpr (Sorted.ascending_ofList _)

theorem agree_atNames (f : Forest) (hdistinct : (plain.keys ++ f.roots.map Node.path).Nodup) :
    Agree (fun roots arguments => arguments = atNames (mergeKwargs plain roots).entries)
      (f.materialize registry prefs).result
      ((atNames (Node.keywordItems plain.toList f.roots)).mapM fun entry =>
        (entry.1, ·) <$> entry.2.materialize registry prefs) := by
  have hnames : Agree (fun named arguments => arguments = named.map fun entry =>
        (Slot.named entry.1, entry.2))
      ((Node.keywordItems plain.toList f.roots).mapM fun entry =>
        (entry.1, ·) <$> entry.2.materialize registry prefs)
      ((atNames (Node.keywordItems plain.toList f.roots)).mapM fun entry =>
        (entry.1, ·) <$> entry.2.materialize registry prefs) := by
    rw [atNames, List.mapM_map]
    refine agree_mapM fun entry _ => ?_
    rw [Function.comp_apply]
    cases entry.2.materialize registry prefs with
    | error e => trivial
    | ok argument => exact rfl
  refine ((agree_keywords f hdistinct).trans hnames).mono ?_
  rintro roots _ ⟨_, rfl, rfl⟩
  rfl

/-- A call with keyword arguments comes out like a node that has the items in slots of their
names. -/
theorem agree_invoke (f : Forest) (classRef : String)
    (hdistinct : (plain.keys ++ f.roots.map Node.path).Nodup) :
    Agree (· = ·)
      (do
        let roots ← (f.materialize registry prefs).result
        (invoke registry classRef (mergeKwargs plain roots)).result)
      ((Node.mk classRef classRef
        (atNames (Node.keywordItems plain.toList f.roots))).materialize registry prefs).result := by
  -- a node resolves its class before its items are built, and a call does so after that
  rw [materialize_mk]
  simp only [invoke_result]
  cases (resolve registry classRef classRef).result with
  | error e => cases (f.materialize registry prefs).result <;> trivial
  | ok make =>
      refine (agree_atNames f hdistinct).bind fun roots arguments harguments => ?_
      rw [harguments, builtOf_atNames]
      exact agree_refl _

end Gathering

section Parsing

variable {prefs : Preferences} {elapsed elapsed' : String} {pairs : List (String × String)}
  {root classRef : String}

/-- Parsing lowers tokens, builds the roots and gathers both as keyword arguments. -/
theorem parse_result (registry : Registry (Constructor ω)) (prefs : Preferences) (elapsed : String)
    (tokens : List String) : (parse registry prefs elapsed tokens).result = (do
      let l ← (lower prefs elapsed tokens).result.mapError .lowering
      let roots ← (l.forest.materialize registry prefs.constructing).result.mapError .materialize
      return { kwargs := mergeKwargs l.plain roots, warnings := l.warnings }) := by
  unfold parse
  simp only [Log.Traced.result_bind, Log.Traced.result_mapError]
  rfl

theorem parse_bind_invoke (registry : Registry (Constructor ω)) (prefs : Preferences)
    (elapsed : String) (tokens : List String) (classRef : String) :
    (do
      let parsed ← (parse registry prefs elapsed tokens).result
      (invoke registry classRef parsed.kwargs).result.mapError HyperparameterError.materialize) =
    (do
      let l ← (lower prefs elapsed tokens).result.mapError .lowering
      Except.mapError .materialize (do
        let roots ← (l.forest.materialize registry prefs.constructing).result
        (invoke registry classRef (mergeKwargs l.plain roots)).result)) := by
  rw [parse_result, bind_assoc]
  refine congrArg (bind _) (funext fun l => ?_)
  cases (l.forest.materialize registry prefs.constructing).result <;> rfl

/-- One tree and no plain value give one keyword argument. -/
theorem kwargs_of_single {prefs : Preferences.Constructing} {l : Lowered} {n : Node}
    (hplain : l.plain.toList = []) (hroots : l.forest.roots = [n]) :
    (do
      let roots ← (l.forest.materialize registry prefs).result.mapError
        HyperparameterError.materialize
      return ({ kwargs := mergeKwargs l.plain roots, warnings := l.warnings } : Parsed ω)) =
    (fun i => { kwargs := .ofList [(n.path, .object i)], warnings := l.warnings }) <$>
      (n.materialize registry prefs).result.mapError .materialize := by
  rw [materialize_forest_result, hroots, List.mapM_cons, List.mapM_nil]
  unfold mergeKwargs
  rw [hplain]
  cases (n.materialize registry prefs).result <;> rfl

variable [Renamable ω]

/-- The root that gathers a lowered command line is built like a call with its keyword arguments. -/
theorem agree_gathering {prefs : Preferences.Constructing} (hregistry : registry.Equivariant)
    {plain : Arguments} {f : Forest} (hdistinct : (plain.keys ++ f.roots.map Node.path).Nodup)
    (root classRef : String) :
    Agree (fun i i' => i' = { i.rename (keyUnder root) with origin := root })
      (do
        let roots ← (f.materialize registry prefs).result
        (invoke registry classRef (mergeKwargs plain roots)).result)
      ((Node.gathering root classRef plain.toList f.roots).materialize registry prefs).result := by
  have hmoved : Agree (fun i i' => i.origin = classRef ∧
        i' = { i.rename (keyUnder root) with origin := root })
      ((Node.mk classRef classRef
        (atNames (Node.keywordItems plain.toList f.roots))).materialize registry prefs).result
      ((Node.gathering root classRef plain.toList f.roots).materialize registry prefs).result :=
    agree_materialize_mk hregistry (keyUnder_injective root) (agree_relocateSlots fun entry _ =>
      entry.2.agree_relocate hregistry (keyUnder_injective root))
  refine ((agree_invoke f classRef hdistinct).trans hmoved).mono ?_
  rintro i _ ⟨_, rfl, -, rfl⟩
  rfl

/-- A class is called with the keyword arguments of a command line or written at a root above all
keys: both fail, or the only keyword argument is then the instance that the call gives, with every
object at its path below the root. -/
theorem entrypoint_agree (hregistry : registry.Equivariant)
    (hreject : prefs.building.rejectConflictingKeys = true) (hnamed : NamedPairs pairs)
    (hclass : Value.infer classRef = .str classRef) (hroot : isCompoundKey root = false)
    (hname : root ≠ "") (hlimits : WithinLimits (pairsBelow root classRef pairs)) :
    Agree (fun i parsed => parsed.kwargs = .ofList [(root, .object {
          classRef := i.classRef
          origin := root
          object := Renamable.rename (keyUnder root) i.object })])
      (do
        let parsed ← (parse registry prefs elapsed (flagTokens pairs)).result
        (invoke registry classRef parsed.kwargs).result.mapError .materialize)
      (parse registry prefs elapsed' (flagTokens (pairsBelow root classRef pairs))).result := by
  rw [parse_bind_invoke, parse_result]
  refine ((agree_lower_pairsBelow hreject hnamed hclass hroot hname hlimits).mapError _ _).bind ?_
  rintro l l' ⟨hplain, hroots, hdistinct⟩
  rw [kwargs_of_single hplain hroots]
  refine ((agree_gathering hregistry hdistinct root classRef).mapError _ _).map_right ?_
  rintro i _ rfl
  rfl

end Parsing

section Watched

/-- The arguments of an estimator that tells a callback about its epochs. -/
def watchedPairs : List (String × String) :=
  [("epochs", "3"), ("callbacks.__class__", "dummyest.DummyCallback"), ("callbacks.name", "log")]

def watcher (origin : String) : Instance Object where
  classRef := callbackClass
  origin := origin
  object := .callback ⟨"log"⟩

theorem lower_watchedPairs :
    ∃ l, (lower {} "0" (flagTokens watchedPairs)).result = .ok l ∧
      l.plain.toList = [("epochs", .int 3)] ∧
      l.forest.roots = [.mk "callbacks" callbackClass [(.named "name", .value (.str "log"))]] := by
  have htokenizable : Tokenizable watchedPairs := by
    refine ⟨show 6 ≤ Limits.tokenCount by decide, fun pair hpair => ?_⟩
    simp only [watchedPairs, List.mem_cons, List.not_mem_nil, or_false] at hpair
    rcases hpair with rfl | rfl | rfl <;> exact ⟨by decide, by decide, by decide⟩
  have hlist : (Arguments.ofList (inferred watchedPairs)).toList = [("epochs", .int 3),
      ("callbacks.__class__", .str callbackClass), ("callbacks.name", .str "log")] := by
    have hkeys : ((inferred watchedPairs).map Prod.fst).Nodup :=
      show ["epochs", "callbacks.__class__", "callbacks.name"].Nodup by decide
    exact Arguments.toList_ofList hkeys
  let placed : List Node := [.mk "callbacks" callbackClass [(.named "name", .value (.str "log"))]]
  have hbuild : ∀ c : Arguments, c.toList =
      [("callbacks.__class__", .str callbackClass), ("callbacks.name", .str "log")] →
        (Forest.build ({} : Preferences).building c).result = .ok { roots := placed } := by
    intro c hc
    have hnested : Forest.nestedPaths placed = [] := by decide +kernel
    rw [Forest.build_result_eq_ok_iff, hc]
    refine ⟨[.new "callbacks" callbackClass], placed, rfl, rfl, ?_⟩
    rw [hnested]
    rfl
  obtain ⟨l, hlower, hplain, hforest⟩ :=
    exists_lower_of_entries htokenizable hlist (by decide) hbuild
  exact ⟨l, hlower, hplain, congrArg Forest.roots hforest⟩

theorem invoke_watchedPairs {registry : Registry (Constructor Object)}
    (hcallback : registry.resolve? callbackClass = some Object.makeCallback)
    (hname : registry.canonicalName? callbackClass = some callbackClass)
    (hestimator : registry.resolve? estimatorAlias = some Object.makeEstimator) :
    ∃ i, (do
        let parsed ← (parse registry {} "0" (flagTokens watchedPairs)).result
        (invoke registry estimatorAlias parsed.kwargs).result.mapError
          HyperparameterError.materialize) = .ok i ∧
      i.object = .estimator ⟨3, "uniform", [watcher "callbacks"]⟩ := by
  obtain ⟨l, hlower, hplain, hroots⟩ := lower_watchedPairs
  have hbuilt : (l.forest.materialize registry {}).result =
      .ok [("callbacks", watcher "callbacks")] := by
    have hcalled : builtBy registry "callbacks" Object.makeCallback
        (.new callbackClass [] (.ofList [("name", .value (.str "log"))])) =
          .ok (watcher "callbacks") := by
      unfold builtBy CallArgs.new
      rw [hname]
      rfl
    rw [materialize_forest_result, hroots, List.mapM_cons, List.mapM_nil, materialize_mk, resolve,
      hcallback]
    change (do
      let entry ← (fun i => ("callbacks", i)) <$> builtBy registry "callbacks" Object.makeCallback
        (.new callbackClass [] (.ofList [("name", .value (.str "log"))]))
      return [entry]) = _
    rw [hcalled]
    rfl
  have hkwargs : mergeKwargs l.plain [("callbacks", watcher "callbacks")] =
      .ofList [("callbacks", .object (watcher "callbacks")), ("epochs", .value (.int 3))] := by
    rw [mergeKwargs, hplain]
    rfl
  have hmade : Object.makeEstimator (.new estimatorAlias []
      (.ofList [("callbacks", .object (watcher "callbacks")), ("epochs", .value (.int 3))])) =
        .ok (.estimator ⟨3, "uniform", [watcher "callbacks"]⟩) := rfl
  have hinvoked : ∃ i, (invoke registry estimatorAlias (mergeKwargs l.plain
      [("callbacks", watcher "callbacks")])).result = .ok i ∧
        i.object = .estimator ⟨3, "uniform", [watcher "callbacks"]⟩ := by
    rw [hkwargs, invoke_of_resolve hestimator, builtBy, hmade]
    exact ⟨_, rfl, rfl⟩
  obtain ⟨i, hi, hobject⟩ := hinvoked
  refine ⟨i, ?_, hobject⟩
  rw [parse_bind_invoke, hlower]
  change Except.mapError _ ((l.forest.materialize registry {}).result >>= _) = _
  rw [hbuilt]
  exact congrArg (Except.mapError _) hi

/-- An estimator with a callback, called with its arguments and declared at a root. -/
theorem entrypoint_agree_watched :
    ∃ registry, (builtinRegistry "08:00").result = .ok registry ∧ ∃ i parsed,
      (do
        let parsed ← (parse registry {} "0" (flagTokens watchedPairs)).result
        (invoke registry estimatorAlias parsed.kwargs).result.mapError
          HyperparameterError.materialize) = .ok i ∧
      i.object = .estimator ⟨3, "uniform", [watcher "callbacks"]⟩ ∧
      (parse registry {} "0" (flagTokens
        (pairsBelow "est" estimatorAlias watchedPairs))).result = .ok parsed ∧
      parsed.kwargs = .ofList [("est", .object {
        classRef := i.classRef
        origin := "est"
        object := .estimator ⟨3, "uniform", [watcher "est.callbacks"]⟩ })] := by
  have hcallback : (builtins "08:00").resolve? callbackClass = some Object.makeCallback := rfl
  obtain ⟨i, hi, hobject⟩ := invoke_watchedPairs hcallback rfl rfl
  have hlimits : WithinLimits (pairsBelow "est" estimatorAlias watchedPairs) :=
    ⟨by decide, by decide, by decide, by decide +kernel, by decide +kernel⟩
  have hnamed : NamedPairs watchedPairs := ⟨by decide, by decide⟩
  obtain ⟨parsed, hparsed, hkwargs⟩ : ∃ parsed, (parse (builtins "08:00") {} "0" (flagTokens
      (pairsBelow "est" estimatorAlias watchedPairs))).result = .ok parsed ∧ _ :=
    (entrypoint_agree (equivariant_builtins _) rfl hnamed rfl (by decide) (by decide)
      hlimits).exists_of_ok hi
  refine ⟨builtins "08:00", builtinRegistry_result _, i, parsed, hi, hobject, hparsed, ?_⟩
  rw [hkwargs, hobject]
  rfl

end Watched

end Hyperparams

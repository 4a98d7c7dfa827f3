import Hyperparams.Proofs.Entrypoint
import Hyperparams.Proofs.Tree.Written

/-!
# Estimators with callbacks

The callbacks of an estimator are declared one by one, in a list or a set at the positions from zero
on. In whatever order the declarations come, the estimator gets its callbacks in the order of their
positions. Callbacks of one name stay apart, because each is an object of its own.
-/

namespace Hyperparams

section Written

open Forest Node

variable {ω : Type} {prefs : Preferences} {pairs : List (String × String)} {n : Node}

/-- The entries of a tree are lowered to the tree, in whatever order they come. -/
theorem exists_lower_of_entries_perm (elapsed : String) (h : n.Writable)
    (htokens : Tokenizable pairs) (hpairs : (inferred pairs).Perm n.entries) :
    ∃ l, (lower prefs elapsed (flagTokens pairs)).result = .ok l ∧
      l.plain.toList = [] ∧ l.forest.roots = [n] := by
  have hcompound : ∀ entry ∈ inferred pairs, isCompoundKey entry.1 = true := by
    intro entry hentry
    obtain ⟨m, -, segment, hkey, -⟩ := mem_entries h (hpairs.mem_iff.mp hentry)
    rw [hkey]
    exact isCompoundKey_join _ _
  have hplain : (inferred pairs).filter (fun entry => !isCompoundKey entry.1) = [] :=
    List.filter_eq_nil_iff.mpr fun entry hentry => by simp [hcompound entry hentry]
  have hall : (inferred pairs).filter (fun entry => isCompoundKey entry.1) = inferred pairs :=
    List.filter_eq_self.mpr hcompound
  have hlist : (Arguments.ofList (inferred pairs)).toList = inferred pairs :=
    Arguments.toList_ofList ((hpairs.map Prod.fst).nodup_iff.mpr (keys_entries_nodup h))
  have hbuild : ∀ c : Arguments, c.toList = (inferred pairs).filter (isCompoundKey ·.1) →
      (build prefs.building c).result = .ok { roots := [n] } := by
    intro c hc
    rw [hall] at hc
    exact build_of_entries_perm h (hc ▸ hpairs)
  have hfree : ∀ key ∈ ((inferred pairs).filter fun entry => !isCompoundKey entry.1).map Prod.fst,
      key ∉ (((inferred pairs).filter fun entry => isCompoundKey entry.1).map Prod.fst).map
        keyRoot := by
    rw [hplain]
    exact List.forall_mem_nil _
  obtain ⟨l, hlower, hleft, hforest⟩ := exists_lower_of_entries htokens hlist hfree hbuild
  exact ⟨l, hlower, hleft.trans hplain, congrArg roots hforest⟩

/-- A command line that says what the entries of a tree say has the object of the tree as its only
keyword argument. -/
theorem exists_parse_of_entries_perm {registry : Registry (Constructor ω)} {i : Instance ω}
    (elapsed : String) (h : n.Writable) (htokens : Tokenizable pairs)
    (hpairs : (inferred pairs).Perm n.entries)
    (hbuilt : (n.materialize registry prefs.constructing).result = .ok i) :
    ∃ parsed, (parse registry prefs elapsed (flagTokens pairs)).result = .ok parsed ∧
      parsed.kwargs = .ofList [(n.path, .object i)] := by
  obtain ⟨l, hlower, hplain, hroots⟩ := exists_lower_of_entries_perm elapsed h htokens hpairs
  rw [parse_result, hlower]
  exact ⟨_, (kwargs_of_single hplain hroots).trans (by rw [hbuilt]; rfl), rfl⟩

end Written

section Declaring

def callbackPath (i : Nat) : String :=
  "est.callbacks" ++ "." ++ toString i

/-- The arguments that declare an estimator whose collection of callbacks has some names. -/
def callbackPairs (collection : String) (names : List String) : List (String × String) :=
  ("est.__class__", estimatorAlias) :: ("est.callbacks.__class__", collection) ::
    names.zipIdx.flatMap fun (name, i) =>
      [(callbackPath i ++ "." ++ "__class__", callbackClass),
        (callbackPath i ++ "." ++ "name", name)]

/-- Callbacks can be declared in a list or in a set. -/
def IsCollection (collection : String) : Prop :=
  collection = CallArgs.listClass ∨ collection = setClass

def callbackNode (name : String) (i : Nat) : Node :=
  .mk (callbackPath i) callbackClass [(.named "name", .value (.str name))]

def callbackNodes (names : List String) : List Node :=
  names.zipIdx.map fun (name, i) => callbackNode name i

def collectionNode (collection : String) (names : List String) : Node :=
  .mk "est.callbacks" collection
    (names.zipIdx.map fun (name, i) => (.positional i, .node (callbackNode name i)))

def estimatorNode (collection : String) (names : List String) : Node :=
  .mk "est" estimatorAlias [(.named "callbacks", .node (collectionNode collection names))]

variable {collection : String} {names : List String}

theorem IsCollection.infer_eq (h : IsCollection collection) :
    Value.infer collection = .str collection := by
  rcases h with rfl | rfl <;> rfl

theorem IsCollection.utf8ByteSize_le (h : IsCollection collection) :
    collection.utf8ByteSize ≤ Limits.valueLength := by
  rcases h with rfl | rfl <;> decide

theorem children_collectionNode :
    (collectionNode collection names).children = callbackNodes names := by
  unfold collectionNode Node.children Node.slots
  rw [List.filterMap_map]
  exact congrFun List.filterMap_eq_map _

theorem values_collectionNode : (collectionNode collection names).values = [] := by
  unfold collectionNode Node.values Node.slots
  rw [List.flatMap_map]
  exact List.flatMap_eq_nil_iff.mpr fun _ _ => rfl

/-- The nodes of the tree are the estimator, the collection and the callbacks. -/
theorem nodes_estimatorNode : (estimatorNode collection names).nodes =
    estimatorNode collection names :: collectionNode collection names ::
      callbackNodes names := by
  have hleaves : (callbackNodes names).flatMap Node.nodes = callbackNodes names := by
    unfold callbackNodes
    rw [List.flatMap_map, List.map_eq_flatMap]
    rfl
  have hcollection : (collectionNode collection names).nodes =
      collectionNode collection names :: callbackNodes names := by
    rw [Node.nodes_eq, children_collectionNode, hleaves]
  have hchildren : (estimatorNode collection names).children.flatMap Node.nodes =
      (collectionNode collection names).nodes := List.flatMap_singleton _ _
  rw [Node.nodes_eq, hchildren, hcollection]

/-- What holds of the estimator, the collection and every callback holds of all nodes. -/
theorem forall_mem_estimatorNode {P : Node → Prop} :
    (∀ m ∈ (estimatorNode collection names).nodes, P m) ↔
      P (estimatorNode collection names) ∧ P (collectionNode collection names) ∧
        ∀ entry ∈ names.zipIdx, P (callbackNode entry.1 entry.2) := by
  rw [nodes_estimatorNode, List.forall_mem_cons, List.forall_mem_cons, callbackNodes,
    List.forall_mem_map]

/-- The arguments are the entries of the tree. -/
theorem inferred_callbackPairs (hcollection : Value.infer collection = .str collection)
    (hnames : ∀ name ∈ names, Value.infer name = .str name) :
    inferred (callbackPairs collection names) = (estimatorNode collection names).entries := by
  have hown : (collectionNode collection names).ownEntries =
      [("est.callbacks.__class__", .str collection)] := by
    unfold Node.ownEntries
    rw [values_collectionNode]
    rfl
  unfold inferred callbackPairs Node.entries
  rw [nodes_estimatorNode, List.flatMap_cons, List.flatMap_cons, hown, callbackNodes,
    List.flatMap_map, List.map_cons, List.map_cons, List.map_flatMap]
  refine congrArg₂ (fun v rest => _ :: (_, v) :: rest) hcollection
    (List.flatMap_congr fun entry hentry => ?_)
  change [(callbackPath entry.2 ++ "." ++ classSegment, Value.infer callbackClass),
    (callbackPath entry.2 ++ "." ++ "name", Value.infer entry.1)] = _
  rw [hnames _ (List.fst_mem_of_mem_zipIdx hentry)]
  rfl

theorem splitKey?_callbackPath (i : Nat) :
    splitKey? (callbackPath i) = some ("est.callbacks", toString i) :=
  splitKey?_join (isCompoundKey_toString i)

/-- Callbacks at different positions have different paths. -/
theorem callbackPath_injective : callbackPath.Injective := by
  intro i j h
  have hsplit := congrArg splitKey? h
  rw [splitKey?_callbackPath, splitKey?_callbackPath] at hsplit
  have htext : toString i = toString j := (Prod.mk.inj (Option.some.inj hsplit)).2
  rw [← Decimal.ofDigits_toString i, htext, Decimal.ofDigits_toString]

theorem keySegments_callbackPath (i : Nat) :
    keySegments (callbackPath i) = ["est", "callbacks", toString i] := by
  have hcallbacks : keySegments "est.callbacks" = ["est", "callbacks"] := by decide
  rw [callbackPath, keySegments_join (isCompoundKey_toString i), hcallbacks]
  rfl

theorem callbackPaths_nodup (names : List String) :
    (names.zipIdx.map fun entry => callbackPath entry.2).Nodup := by
  have hindices : (names.zipIdx.map Prod.snd).Nodup := by
    rw [List.zipIdx_map_snd]
    exact List.nodup_range' _
  have hpaths := hindices.map callbackPath_injective
  rwa [List.map_map] at hpaths

/-- No two nodes of the tree have one path. -/
theorem paths_estimatorNode_nodup :
    ((estimatorNode collection names).nodes.map Node.path).Nodup := by
  have hlength : ∀ (i : Nat) (path : String), callbackPath i = path →
      (keySegments path).length = 3 := by
    rintro i _ rfl
    rw [keySegments_callbackPath]
    rfl
  rw [nodes_estimatorNode, List.map_cons, List.map_cons, callbackNodes, List.map_map]
  refine List.nodup_cons.mpr ⟨fun hroot => ?_, List.nodup_cons.mpr ⟨fun hpath => ?_, ?_⟩⟩
  · rcases List.mem_cons.mp hroot with heq | hpath
    · exact absurd heq (show "est" ≠ "est.callbacks" by decide)
    · obtain ⟨entry, -, heq⟩ := List.mem_map.mp hpath
      exact absurd (hlength entry.2 "est" heq) (by decide)
  · obtain ⟨entry, -, heq⟩ := List.mem_map.mp hpath
    exact absurd (hlength entry.2 "est.callbacks" heq) (by decide)
  · exact callbackPaths_nodup names

theorem ascending_collectionNode : Sorted.Ascending (collectionNode collection names).slots := by
  have hindices : names.zipIdx.Pairwise fun a b => a.2 < b.2 := by
    have hrange : (names.zipIdx.map Prod.snd).Pairwise (· < ·) := by
      rw [List.zipIdx_map_snd]
      exact List.pairwise_lt_range' _
    exact List.pairwise_map.mp hrange
  refine List.pairwise_map.mpr (hindices.imp ?_)
  exact Slot.positional_lt_positional.mpr

theorem index_le (h : names.length ≤ 257) {entry : String × Nat} (hentry : entry ∈ names.zipIdx) :
    entry.2 ≤ Limits.positionalIndex := by
  have hlt := List.snd_lt_of_mem_zipIdx hentry
  rw [Limits.positionalIndex]
  omega

/-- The paths of the tree say where its nodes are. -/
theorem writable_estimatorNode (h : names.length ≤ 257) :
    (estimatorNode collection names).Writable where
  ordered := forall_mem_estimatorNode.mpr ⟨List.pairwise_singleton _ _, ascending_collectionNode,
    fun _ _ => List.pairwise_singleton _ _⟩
  root := show isCompoundKey "est" = false by decide
  distinct := paths_estimatorNode_nodup
  few := by
    rw [nodes_estimatorNode, List.length_cons, List.length_cons, callbackNodes, List.length_map,
      List.length_zipIdx, Limits.objectCount]
    omega
  segments := by
    refine forall_mem_estimatorNode.mpr ⟨?_, ?_, fun entry _ => ?_⟩
    · change "" ∉ keySegments "est" ∧ (keySegments "est").length ≤ Limits.nestingDepth
      decide
    · change "" ∉ keySegments "est.callbacks" ∧
        (keySegments "est.callbacks").length ≤ Limits.nestingDepth
      decide
    · change "" ∉ keySegments (callbackPath entry.2) ∧
        (keySegments (callbackPath entry.2)).length ≤ Limits.nestingDepth
      rw [keySegments_callbackPath]
      simp [Limits.nestingDepth]
  slots := by
    have hnamed : ∀ name, name = "callbacks" ∨ name = "name" → (Slot.named name).Writable := by
      rintro _ (rfl | rfl)
      · exact Slot.writable_named (by decide) (by decide) (by decide) (by decide)
      · exact Slot.writable_named (by decide) (by decide) (by decide) (by decide)
    refine forall_mem_estimatorNode.mpr ⟨?_, ?_, fun entry _ => ?_⟩
    · exact List.forall_mem_singleton.mpr (hnamed _ (Or.inl rfl))
    · exact List.forall_mem_map.mpr fun entry hentry =>
        Slot.writable_positional (index_le h hentry)
    · exact List.forall_mem_singleton.mpr (hnamed _ (Or.inr rfl))
  children := by
    refine forall_mem_estimatorNode.mpr ⟨?_, ?_, fun entry _ => ?_⟩
    · intro slot child hchild
      cases List.mem_singleton.mp hchild
      rfl
    · intro slot child hchild
      obtain ⟨entry, -, heq⟩ := List.mem_map.mp hchild
      cases heq
      rfl
    · intro slot child hchild
      cases List.mem_singleton.mp hchild

theorem wellFormedPair_callback {i : Nat} {segment raw : String} (hi : i ≤ Limits.positionalIndex)
    (hsegment : segment.utf8ByteSize ≤ 16) (hraw : raw.utf8ByteSize ≤ Limits.valueLength) :
    WellFormedPair (callbackPath i ++ "." ++ segment, raw) := by
  refine ⟨fun hempty => ?_, ?_, hraw⟩
  · have hcompound : isCompoundKey "" = true :=
      hempty ▸ isCompoundKey_join (callbackPath i) segment
    cases hcompound
  · have hdigits : ∀ j < Limits.positionalIndex + 1, (toString j).utf8ByteSize ≤ 3 := by
      decide +kernel
    have hindex := hdigits i (Nat.lt_succ_of_le hi)
    have hcallbacks : ("est.callbacks" ++ ".").utf8ByteSize = 14 := by decide
    have hdot : ".".utf8ByteSize = 1 := by decide
    rw [callbackPath, String.utf8ByteSize_append, String.utf8ByteSize_append,
      String.utf8ByteSize_append, hcallbacks, hdot, Limits.keyLength]
    omega

/-- The arguments stay within the limits on tokens. -/
theorem tokenizable_callbackPairs (h : names.length ≤ 257)
    (hcollection : collection.utf8ByteSize ≤ Limits.valueLength)
    (hnames : ∀ name ∈ names, name.utf8ByteSize ≤ Limits.valueLength) :
    Tokenizable (callbackPairs collection names) := by
  refine ⟨?_, List.forall_mem_cons.mpr ⟨⟨by decide, by decide, by decide⟩,
    List.forall_mem_cons.mpr ⟨⟨?_, ?_, hcollection⟩, List.forall_mem_flatMap.mpr ?_⟩⟩⟩
  · have hlength : (callbackPairs collection names).length = 2 * names.length + 2 := by
      simp [callbackPairs, List.length_flatMap, Nat.mul_comm]
    rw [hlength, Limits.tokenCount]
    omega
  · exact show "est.callbacks.__class__" ≠ "" by decide
  · exact show "est.callbacks.__class__".utf8ByteSize ≤ Limits.keyLength by decide
  · intro entry hentry
    have hindex := index_le h hentry
    refine List.forall_mem_cons.mpr ⟨?_, List.forall_mem_singleton.mpr ?_⟩
    · exact wellFormedPair_callback hindex (by decide)
        (show callbackClass.utf8ByteSize ≤ Limits.valueLength by decide)
    · exact wellFormedPair_callback hindex (by decide)
        (hnames _ (List.fst_mem_of_mem_zipIdx hentry))

end Declaring

section Building

open CallArgs

def callbackInstance (name : String) (i : Nat) : Instance Object where
  classRef := callbackClass
  origin := callbackPath i
  object := .callback ⟨name⟩

def callbackInstances (names : List String) : List (Instance Object) :=
  names.zipIdx.map fun (name, i) => callbackInstance name i

variable {registry : Registry (Constructor Object)} {prefs : Preferences.Constructing}
  {collection : String} {names : List String}

/-- No two callbacks are the same object. -/
theorem origins_callbackInstances_nodup (names : List String) :
    ((callbackInstances names).map Instance.origin).Nodup := by
  unfold callbackInstances
  rw [List.map_map]
  exact callbackPaths_nodup names

/-- The callbacks of an estimator have their names, in order. -/
theorem callbackNames_callbackInstances (epochs : Int64) (init : String) :
    (Estimator.mk epochs init (callbackInstances names)).callbackNames = names := by
  unfold Estimator.callbackNames Estimator.watchers callbackInstances
  rw [List.filterMap_map, ← List.filterMap_eq_map, List.filterMap_filterMap]
  exact (congrFun List.filterMap_eq_map _).trans (List.zipIdx_map_fst 0 names)

/-- Callbacks are built with their names. -/
theorem materialize_callbackNode
    (hmake : registry.resolve? callbackClass = some Object.makeCallback)
    (hcanonical : registry.canonicalName? callbackClass = some callbackClass) (name : String)
    (i : Nat) :
    ((callbackNode name i).materialize registry prefs).result = .ok (callbackInstance name i) := by
  have harguments : [(Slot.named "name", Item.value (.str name))].mapM (fun entry =>
      (entry.1, ·) <$> entry.2.materialize registry prefs) =
        .ok (atNames (Sorted.Table.ofList [("name", Argument.value (.str name))]).entries) := rfl
  have hcalled : builtBy registry (callbackPath i) Object.makeCallback
      (.new callbackClass [] (.ofList [("name", .value (.str name))])) =
        .ok (callbackInstance name i) := by
    unfold builtBy CallArgs.new
    rw [hcanonical]
    rfl
  unfold callbackNode
  rw [materialize_of_resolve _ hmake harguments, builtOf_atNames, hcalled]

/-- A collection of callbacks is built with the callbacks in order. -/
theorem materialize_collectionNode (prefs : Preferences.Constructing)
    {make : Constructor Object} {object : Object}
    (hcallback : registry.resolve? callbackClass = some Object.makeCallback)
    (hcanonical : registry.canonicalName? callbackClass = some callbackClass)
    (hmake : registry.resolve? collection = some make)
    (hobject : make (.new collection ((callbackInstances names).map .object) ∅) = .ok object) :
    ((collectionNode collection names).materialize registry prefs).result = .ok {
      classRef := (registry.canonicalName? collection).getD collection
      origin := "est.callbacks"
      object } := by
  let entries : List (Nat × Argument Object) :=
    names.zipIdx.map fun entry => (entry.2, .object (callbackInstance entry.1 entry.2))
  have harguments : (collectionNode collection names).slots.mapM (fun entry =>
      (entry.1, ·) <$> entry.2.materialize registry prefs) = .ok (atPositions entries) := by
    have hpure := List.mapM_pure (m := Except MaterializeError) (l := names.zipIdx)
      (f := fun entry =>
        (Slot.positional entry.2, Argument.object (callbackInstance entry.1 entry.2)))
    unfold collectionNode Node.slots
    rw [List.mapM_map, atPositions, List.map_map]
    -- no callback is refused, so the arguments are only gathered
    refine Eq.trans (congrArg (List.mapM · names.zipIdx) (funext fun entry => ?_)) hpure
    change (_, ·) <$> Item.materialize registry prefs (.node (callbackNode entry.1 entry.2)) = _
    rw [Item.materialize, materialize_callbackNode hcallback hcanonical]
    rfl
  have hindices : entries.map Prod.fst = List.range entries.length := by
    have hlength : entries.length = names.length := by simp [entries]
    rw [hlength, List.range_eq_range', ← List.zipIdx_map_snd, List.map_map]
    rfl
  have hitems : entries.map Prod.snd = (callbackInstances names).map .object := by
    unfold callbackInstances
    rw [List.map_map, List.map_map]
    rfl
  have hbuilt := materialize_of_resolve "est.callbacks" hmake harguments
  refine hbuilt.trans ?_
  rw [builtOf_atPositions _ _ _ hindices, hitems, builtBy, hobject]
  rfl

/-- An estimator that is only given a collection takes the objects in it as its callbacks. -/
theorem makeEstimator_callbacks {i : Instance Object} {callbacks : List (Instance Object)}
    (h : i.object.items? = some (callbacks.map .object)) :
    Object.makeEstimator (.new estimatorAlias [] (.ofList [("callbacks", .object i)])) =
      .ok (.estimator ⟨2, "uniform", callbacks⟩) := by
  let args : CallArgs Object := .new estimatorAlias [] (.ofList [("callbacks", .object i)])
  have hepochs : (valueOr .int 0 "epochs" 2).run args = (.ok 2, args) := rfl
  have hinit : (take 1 "init").run args = (.ok none, args) := rfl
  have hitems : itemsOf (.object i) = callbacks.map .object := congrArg (Option.getD · _) h
  have hcallbacks : (takeInstances 2 "callbacks").run args =
      (.ok callbacks, args.without 2 "callbacks") := by
    rw [binds_takeInstances]
    change (instancesOf estimatorAlias "callbacks" (itemsOf (.object i)), _) = _
    rw [hitems, instancesOf_objects]
  have hbound : args.bind Estimator.binding = .ok ⟨2, "uniform", callbacks⟩ := by
    unfold CallArgs.bind Estimator.binding
    rw [run_bind, hepochs]
    dsimp only
    rw [run_bind, hinit]
    dsimp only
    rw [run_bind, hcallbacks]
    rfl
  unfold Object.makeEstimator Estimator.ofArgs
  rw [hbound]
  rfl

/-- An estimator gets the callbacks of its collection. -/
theorem materialize_estimatorNode {i : Instance Object}
    (hmake : registry.resolve? estimatorAlias = some Object.makeEstimator)
    (hbuilt : ((collectionNode collection names).materialize registry prefs).result = .ok i)
    (hitems : i.object.items? = some ((callbackInstances names).map .object)) :
    ((estimatorNode collection names).materialize registry prefs).result = .ok {
      classRef := (registry.canonicalName? estimatorAlias).getD estimatorAlias
      origin := "est"
      object := .estimator ⟨2, "uniform", callbackInstances names⟩ } := by
  have harguments : [(Slot.named "callbacks", Item.node (collectionNode collection names))].mapM
      (fun entry => (entry.1, ·) <$> entry.2.materialize registry prefs) =
        .ok (atNames (Sorted.Table.ofList [("callbacks", Argument.object i)]).entries) := by
    rw [List.mapM_cons, Item.materialize, hbuilt]
    rfl
  unfold estimatorNode
  rw [materialize_of_resolve _ hmake harguments, builtOf_atNames, builtBy,
    makeEstimator_callbacks hitems]
  rfl

end Building

section Parsing

variable {prefs : Preferences} {elapsed : String} {pairs : List (String × String)}
  {collection : String} {names : List String}

/-- A list and a set both hold all callbacks. -/
theorem IsCollection.exists_make {registry : Registry (Constructor Object)}
    (h : IsCollection collection)
    (hlist : registry.resolve? CallArgs.listClass = some Object.makeList)
    (hset : registry.resolve? setClass = some Object.makeSet) (names : List String) :
    ∃ make object, registry.resolve? collection = some make ∧
      make (.new collection ((callbackInstances names).map .object) ∅) = .ok object ∧
      object.items? = some ((callbackInstances names).map .object) := by
  rcases h with rfl | rfl
  · refine ⟨_, .list ((callbackInstances names).map .object), hlist, ?_, rfl⟩
    unfold Object.makeList
    rw [listItems_new]
    rfl
  · refine ⟨_, .set ((callbackInstances names).map .object), hset, ?_, rfl⟩
    unfold Object.makeSet
    rw [setItems_objects _ (origins_callbackInstances_nodup names)]
    rfl

/-- In whatever order an estimator and its callbacks are declared, the estimator is the only keyword
argument, and it has the callbacks with the names that were given, in the order of their positions.
In a set, too, callbacks of one name are kept. -/
theorem parse_keeps_callbacks (hcount : names.length ≤ 257)
    (hnames : ∀ name ∈ names, Value.infer name = .str name ∧ name.utf8ByteSize ≤ 1048576)
    (hcollection : IsCollection collection)
    (hpairs : pairs.Perm (callbackPairs collection names)) (now : String) :
    ∃ registry, (builtinRegistry now).result = .ok registry ∧ ∃ parsed i e,
      (parse registry prefs elapsed (flagTokens pairs)).result = .ok parsed ∧
      parsed.kwargs = .ofList [("est", .object i)] ∧ i.classRef = estimatorClass ∧
      i.object = .estimator e ∧ e.callbackNames = names := by
  have halias : (builtins now).canonicalName? estimatorAlias = some estimatorClass := rfl
  have hlist : (builtins now).resolve? CallArgs.listClass = some Object.makeList := rfl
  have hset : (builtins now).resolve? setClass = some Object.makeSet := rfl
  obtain ⟨make, object, hmake, hobject, hitems⟩ := hcollection.exists_make hlist hset names
  have hbuilt := materialize_estimatorNode rfl
    (materialize_collectionNode prefs.constructing rfl rfl hmake hobject) hitems
  have htokens : Tokenizable pairs := by
    refine Tokenizable.of_perm hpairs.symm ?_
    exact tokenizable_callbackPairs hcount hcollection.utf8ByteSize_le
      fun name hname => (hnames name hname).2
  -- the entries of a tree make the tree in any order, so the order of the pairs is of no matter
  have hentries : (inferred pairs).Perm (estimatorNode collection names).entries := by
    rw [← inferred_callbackPairs hcollection.infer_eq fun name hname => (hnames name hname).1]
    exact hpairs.map _
  obtain ⟨parsed, hparsed, hkwargs⟩ :=
    exists_parse_of_entries_perm elapsed (writable_estimatorNode hcount) htokens hentries hbuilt
  refine ⟨builtins now, builtinRegistry_result now, parsed, _, _, hparsed, hkwargs, ?_, rfl,
    callbackNames_callbackInstances 2 "uniform"⟩
  exact congrArg (Option.getD · estimatorAlias) halias

/-- Two callbacks of one name in a set, declared from the last to the first. -/
theorem parse_keeps_callbacks_reversed :
    ∃ registry, (builtinRegistry "08:00").result = .ok registry ∧ ∃ parsed i e,
      (parse registry {} "0" (flagTokens (callbackPairs setClass ["log", "log"]).reverse)).result =
        .ok parsed ∧
      parsed.kwargs = .ofList [("est", .object i)] ∧ i.classRef = estimatorClass ∧
      i.object = .estimator e ∧ e.callbackNames = ["log", "log"] :=
  have hlog : ∀ name ∈ ["log", "log"],
      Value.infer name = .str name ∧ name.utf8ByteSize ≤ 1048576 := by
    intro name hname
    obtain rfl : name = "log" := by simpa using hname
    exact ⟨rfl, by decide⟩
  parse_keeps_callbacks (by decide) hlog (Or.inr rfl) (List.reverse_perm _) "08:00"

end Parsing

end Hyperparams

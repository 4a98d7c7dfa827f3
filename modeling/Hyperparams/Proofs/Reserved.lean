import Hyperparams.Proofs.Object.Calls
import Hyperparams.Proofs.Tree.Below
import Hyperparams.Proofs.Tree.Regrouping

/-!
# Arguments under the name of the class segment

The segment that declares classes is no name for plain values, which are never placed there. It is
one for nested objects: where the class segment of an object is itself declared as an object, that
object moves into the slot of this name, and the constructor gets it. No other constructor gets an
argument of this name.
-/

namespace Hyperparams

variable {ω κ : Type}

namespace Construction

variable {ε α β : Type} {P : Invocation ω → Prop} {x : Construction ω ε α}
  {f : α → Construction ω ε β} {earlier : List (Invocation ω)}

/-- What holds of the calls of two parts holds of the calls of the whole. -/
theorem forall_calls_bind (hx : ∀ call ∈ (x earlier).calls, P call)
    (hf : ∀ a earlier', (x earlier).outcome.result = .ok a →
      ∀ call ∈ (f a earlier').calls, P call) :
    ∀ call ∈ ((x >>= f) earlier).calls, P call := by
  cases hresult : (x earlier).outcome.result with
  | error e =>
      rw [calls_bind_of_error hresult]
      exact hx
  | ok a =>
      rw [calls_bind_of_ok hresult]
      exact List.forall_mem_append.mpr ⟨hx, hf a _ hresult⟩

end Construction

section Names

variable {calling : Calling κ ω} {registry : Registry κ} {prefs : Preferences.Constructing}
  {P : Invocation ω → Prop} {earlier : List (Invocation ω)}

/-- A call is for the object of a node, and has arguments under the names of the node's slots. -/
structure Invocation.NamesOf (c : Invocation ω) (n : Node) : Prop where
  path : c.path = n.path
  names : ∀ name, name ∈ c.args.named.keys ↔ Slot.named name ∈ n.slots.map Prod.fst

/-- The names of a call are those of the slots that its arguments stand in. -/
theorem mem_keys_namedEntries (arguments : List (Slot × Argument ω)) (name : String) :
    name ∈ (Sorted.Table.ofList (namedEntries arguments)).keys ↔
      Slot.named name ∈ arguments.map Prod.fst := by
  rw [Sorted.Table.mem_keys_ofList, ← not_iff_not, ← Sorted.find?_eq_none_iff,
    ← Sorted.find?_eq_none_iff, find?_namedEntries]

/-- The arguments of some slots stand in these slots. -/
theorem keys_slotsConstruction {slots : List (Slot × Item)} {arguments : List (Slot × Argument ω)}
    (h : (Node.slotsConstruction calling registry prefs slots earlier).outcome.result =
      .ok arguments) : arguments.map Prod.fst = slots.map Prod.fst := by
  induction slots generalizing earlier arguments with
  | nil =>
      cases h
      rfl
  | cons entry rest ih =>
      obtain ⟨slot, item⟩ := entry
      cases item with
      | value v =>
          unfold Node.slotsConstruction at h
          rw [Construction.result_bind] at h
          obtain ⟨others, hothers, h⟩ := Outcome.bind_eq_ok_iff.mp h
          cases h
          rw [List.map_cons, List.map_cons, ih hothers]
      | node child =>
          unfold Node.slotsConstruction at h
          rw [Construction.result_bind] at h
          obtain ⟨i, -, h⟩ := Outcome.bind_eq_ok_iff.mp h
          rw [Construction.result_bind] at h
          obtain ⟨others, hothers, h⟩ := Outcome.bind_eq_ok_iff.mp h
          cases h
          rw [List.map_cons, List.map_cons, ih hothers]

theorem forall_slotsConstruction_calls {slots : List (Slot × Item)}
    (h : ∀ slot child, (slot, Item.node child) ∈ slots → ∀ earlier,
      ∀ call ∈ (child.construction calling registry prefs earlier).calls, P call)
    (earlier : List (Invocation ω)) :
    ∀ call ∈ (Node.slotsConstruction calling registry prefs slots earlier).calls, P call := by
  induction slots generalizing earlier with
  | nil => exact List.forall_mem_nil _
  | cons entry rest ih =>
      obtain ⟨slot, item⟩ := entry
      have hrest := ih fun slot child hchild => h slot child (List.mem_cons_of_mem _ hchild)
      cases item with
      | value v =>
          exact Construction.forall_calls_bind (hrest earlier) fun _ _ _ => List.forall_mem_nil _
      | node child =>
          refine Construction.forall_calls_bind (h slot child List.mem_cons_self earlier)
            fun _ earlier _ => ?_
          exact Construction.forall_calls_bind (hrest earlier) fun _ _ _ => List.forall_mem_nil _

/-- The call of a node has the names of the node's slots. -/
theorem namesOf_constructNode {path classRef : String} {make : κ} {slots : List (Slot × Item)}
    {arguments : List (Slot × Argument ω)} (h : arguments.map Prod.fst = slots.map Prod.fst) :
    ∀ call ∈ (constructNode calling registry prefs path classRef make arguments earlier).calls,
      call.NamesOf (.mk path classRef slots) := by
  rcases constructNode_calls calling registry prefs path classRef make arguments earlier with
    ⟨gap, hnone, -⟩ | ⟨positional, -, hcalls, -⟩
  · rw [hnone]
    exact List.forall_mem_nil _
  · rw [hcalls]
    refine List.forall_mem_singleton.mpr ⟨rfl, fun name => ?_⟩
    have hslots : (Node.mk path classRef slots).slots.map Prod.fst = arguments.map Prod.fst :=
      h.symm
    rw [hslots]
    exact mem_keys_namedEntries arguments name

/-- The calls of a construction are for nodes of the tree, whether it succeeds or not. -/
theorem forall_construction_calls (n : Node)
    (h : ∀ m ∈ n.nodes, ∀ call : Invocation ω, call.NamesOf m → P call)
    (earlier : List (Invocation ω)) :
    ∀ call ∈ (n.construction calling registry prefs earlier).calls, P call := by
  induction n using Node.induction generalizing earlier with
  | h n ih =>
      obtain ⟨path, classRef, slots⟩ := n
      have hbelow : ∀ earlier, ∀ call ∈
          (Node.slotsConstruction calling registry prefs slots earlier).calls, P call := by
        refine forall_slotsConstruction_calls fun slot child hchild => ?_
        have hmem : child ∈ (Node.mk path classRef slots).children :=
          Node.mem_children.mpr ⟨slot, hchild⟩
        exact ih child hmem fun m hm => h m (Node.mem_nodes_of_mem_children hmem hm)
      unfold Node.construction
      refine Construction.forall_calls_bind (List.forall_mem_nil _) fun make earlier _ => ?_
      refine Construction.forall_calls_bind (hbelow earlier) fun arguments _ harguments => ?_
      have hkeys := keys_slotsConstruction harguments
      exact fun call hcall =>
        h _ (Node.self_mem_nodes _) call (namesOf_constructNode hkeys call hcall)

theorem forall_rootsConstruction_calls (roots : List Node)
    (h : ∀ m ∈ Node.all roots, ∀ call : Invocation ω, call.NamesOf m → P call)
    (earlier : List (Invocation ω)) :
    ∀ call ∈ (rootsConstruction calling registry prefs roots earlier).calls, P call := by
  induction roots generalizing earlier with
  | nil => exact List.forall_mem_nil _
  | cons root rest ih =>
      have hroot : ∀ call ∈ (root.construction calling registry prefs earlier).calls, P call :=
        forall_construction_calls root (fun m hm => h m (List.mem_append_left _ hm)) earlier
      unfold rootsConstruction
      refine Construction.forall_calls_bind hroot fun _ earlier _ => ?_
      have hrest := ih (fun m hm => h m (List.mem_append_right _ hm)) earlier
      exact Construction.forall_calls_bind hrest fun _ _ _ => List.forall_mem_nil _

/-- Every call of a construction is for a node of the forest. -/
theorem exists_namesOf (forest : Forest) (earlier : List (Invocation ω)) :
    ∀ call ∈ (forest.construction calling registry prefs earlier).calls,
      ∃ n ∈ forest.nodes, call.NamesOf n := by
  refine Construction.forall_calls_bind (forall_rootsConstruction_calls forest.roots
    (fun m hm call hcall => ⟨m, hm, hcall⟩) earlier) fun _ _ _ => ?_
  exact Construction.forall_calls_bind (List.forall_mem_nil _) fun _ _ _ => List.forall_mem_nil _

end Names

namespace Forest

variable {prefs : Preferences.Building} {c : Arguments} {f : Forest}

/-- No other segment denotes the slot of the class. -/
theorem ofSegment_eq_named_iff {segment : String} :
    Slot.ofSegment segment = .named classSegment ↔ segment = classSegment := by
  unfold Slot.ofSegment
  split
  next hdigits =>
    have hne : segment ≠ classSegment := fun heq => absurd (heq ▸ hdigits) (by decide)
    simp [hne]
  next => simp

/-- The key that declares the class segment of an object as an object. -/
def classOfClassKey (path : String) : String :=
  keyUnder (keyUnder path classSegment) classSegment

theorem not_mem_assigned {entries : List (String × Value)} {path : String} {v : Value} :
    (path, Slot.named classSegment, v) ∉ assigned entries := by
  intro hmem
  obtain ⟨⟨owner, segment, value⟩, hassignment, heq⟩ := List.mem_map.mp hmem
  obtain ⟨entry, -, hentry⟩ := List.mem_filterMap.mp hassignment
  simp only [Prod.mk.injEq] at heq
  exact (assignment?_eq_some_iff.mp hentry).2.1 (ofSegment_eq_named_iff.mp heq.2.1)

/-- An object is linked under the name of the class segment if the class segment of its parent is
declared. -/
theorem mem_links_iff {entries : List (String × Value)} {path childPath : String} :
    (path, Slot.named classSegment, childPath) ∈ (nestedOwners entries).filterMap link? ↔
      childPath = keyUnder path classSegment ∧ classOfClassKey path ∈ entries.map Prod.fst := by
  have hlink : ∀ owner, link? owner = some (path, Slot.named classSegment, childPath) ↔
      owner = childPath ∧ childPath = keyUnder path classSegment := by
    intro owner
    unfold link?
    rw [Option.map_eq_some_iff]
    constructor
    · rintro ⟨⟨parent, segment⟩, hsplit, heq⟩
      simp only [Prod.mk.injEq, ofSegment_eq_named_iff] at heq
      obtain ⟨rfl, rfl, rfl⟩ := heq
      exact ⟨rfl, (splitKey?_eq_some_iff.mp hsplit).1⟩
    · rintro ⟨rfl, rfl⟩
      exact ⟨(path, classSegment), splitKey?_keyUnder_of_not_compound (by decide),
        by simp [ofSegment_eq_named_iff]⟩
  rw [List.mem_filterMap, classOfClassKey, ← mem_owners_iff]
  simp only [hlink, nestedOwners, List.mem_filter]
  constructor
  · rintro ⟨owner, ⟨howner, -⟩, rfl, rfl⟩
    exact ⟨rfl, howner⟩
  · rintro ⟨rfl, howner⟩
    exact ⟨_, ⟨howner, isCompoundKey_keyUnder _ _⟩, rfl, rfl⟩

/-- In a forest that is built, the name of the class segment is never that of a plain value. A node
has a nested object of this name exactly if the class segment of its path is declared as an object,
and only the constructors of such nodes get an argument of this name. -/
theorem build_classSegment (h : (build prefs c).result = .ok f) :
    (∀ n ∈ f.nodes, ∀ v, (Slot.named classSegment, Item.value v) ∉ n.slots) ∧
      (∀ n ∈ f.nodes,
        Slot.named classSegment ∈ n.slots.map Prod.fst ↔ classOfClassKey n.path ∈ c.keys) ∧
      ∀ {ω κ : Type} (calling : Calling κ ω) (registry : Registry κ)
        (prefs : Preferences.Constructing) (earlier : List (Invocation ω)),
        ∀ call ∈ (f.construction calling registry prefs earlier).calls,
          classSegment ∈ call.args.named.keys ↔ classOfClassKey call.path ∈ c.keys := by
  obtain ⟨classes, hbuilt⟩ := exists_built h
  have hvalues : ∀ n ∈ f.nodes, ∀ v, (Slot.named classSegment, Item.value v) ∉ n.slots :=
    fun n hn v hv =>
      not_mem_assigned (hbuilt.holds.values_perm.mem_iff.mp (mem_values_all hn hv))
  have hslots : ∀ n ∈ f.nodes,
      Slot.named classSegment ∈ n.slots.map Prod.fst ↔ classOfClassKey n.path ∈ c.keys := by
    intro n hn
    constructor
    · intro hmem
      obtain ⟨⟨slot, item⟩, hitem, rfl⟩ := List.mem_map.mp hmem
      cases item with
      | value v => exact absurd hitem (hvalues n hn v)
      | node child =>
          exact (mem_links_iff.mp (hbuilt.holds.links_perm.mem_iff.mp (mem_links_all hn hitem))).2
    · intro hkey
      obtain ⟨m, hm, hlink⟩ := List.mem_flatMap.mp
        (hbuilt.holds.links_perm.mem_iff.mpr (mem_links_iff.mpr ⟨rfl, hkey⟩))
      obtain ⟨hpath, child, -, hchild⟩ := Node.mem_links.mp hlink
      have hdistinct := (hbuilt.regroups (owners_nodup c.keys_nodup)).distinct
      have hsame : m = n := List.inj_on_of_nodup_map hdistinct hm hn hpath.symm
      exact List.mem_map.mpr ⟨_, hsame ▸ hchild, rfl⟩
  refine ⟨hvalues, hslots, fun calling registry prefs earlier call hcall => ?_⟩
  obtain ⟨n, hn, hnames⟩ := exists_namesOf f earlier call hcall
  rw [hnames.names, hnames.path]
  exact hslots n hn

def reservedEntries : List (String × Value) :=
  [("net.__class__", .str "Net"), ("net.__class__.__class__", .str "Head")]

def reservedForest : Forest where
  roots := [.mk "net" "Net" [(.named "__class__", .node (.mk "net.__class__" "Head" []))]]

theorem build_reservedEntries :
    (build {} (Arguments.ofList reservedEntries)).result = .ok reservedForest := by
  rw [build_result_eq_ok_iff, Arguments.toList_ofList (by decide)]
  let placed : List Node := [.mk "net" "Net" [], .mk "net.__class__" "Head" []]
  have hnested : nestedPaths placed = ["net.__class__"] := by decide +kernel
  refine ⟨placed, placed, rfl, rfl, ?_⟩
  rw [hnested]
  rfl

/-- A class for the class segment of an object goes into the slot of that name. -/
theorem build_classSegment_reserved :
    (build {} (Arguments.ofList reservedEntries)).result = .ok reservedForest ∧
      ∀ n ∈ reservedForest.nodes, Slot.named classSegment ∈ n.slots.map Prod.fst ↔
        classOfClassKey n.path ∈ (Arguments.ofList reservedEntries).keys :=
  ⟨build_reservedEntries, (build_classSegment build_reservedEntries).2.1⟩

/-- The constructor of the outer object gets the inner one under the name of the class segment. -/
theorem classSegment_not_reserved :
    (build {} (Arguments.ofList reservedEntries)).result = .ok reservedForest ∧
      (∃ n ∈ reservedForest.nodes, Slot.named classSegment ∈ n.slots.map Prod.fst) ∧
      ∃ call ∈ (reservedForest.construction (fun _ _ _ => .ok ()) pairRegistry {} []).calls,
        classSegment ∈ call.args.named.keys := by
  refine ⟨build_reservedEntries, ⟨_, List.mem_cons_self, List.mem_cons_self⟩, ?_⟩
  have hcalls : (reservedForest.construction (fun _ _ _ => .ok ()) pairRegistry {} []).calls =
      [⟨"net.__class__", .new "Head" [] ∅, .ok ()⟩,
        ⟨"net", .new "Net" [] (.ofList [("__class__", .object ⟨"Head", "net.__class__", ()⟩)]),
          .ok ()⟩] :=
    rfl
  rw [hcalls]
  exact ⟨_, List.mem_cons_of_mem _ List.mem_cons_self, List.mem_cons_self⟩

end Forest

end Hyperparams

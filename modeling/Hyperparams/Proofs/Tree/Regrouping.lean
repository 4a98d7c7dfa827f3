import Hyperparams.Proofs.Table
import Hyperparams.Proofs.Tree.Attaching
import Hyperparams.Proofs.Tree.Declaring

/-!
# Forests regroup their entries

A forest that is built holds exactly what its entries describe: one node for each declaration, each
assigned value in the slot of its segment, and each nested object in the slot of its parent. Nothing
else can be said in a forest, so entries determine it up to the order of the roots.
-/

namespace Hyperparams

namespace Forest

open Node

def nodes (f : Forest) : List Node :=
  all f.roots

/-- The paths of the declared objects that are nested in others. -/
def nestedOwners (entries : List (String × Value)) : List String :=
  (owners entries).filter isCompoundKey

def rootOwners (entries : List (String × Value)) : List String :=
  (owners entries).filter fun owner => !isCompoundKey owner

def asDeclarations (classes : List (String × String)) : List (String × Value) :=
  classes.map fun entry => (entry.1, .str entry.2)

section Build

variable {prefs : Preferences.Building} {c : Arguments} {f : Forest}

theorem build_result (prefs : Preferences.Building) (c : Arguments) :
    (build prefs c).result = (ofCompound prefs c).result := by
  unfold build
  dsimp only
  split <;> simp [*]

/-- A forest is built in three passes over the entries. -/
theorem build_result_eq_ok_iff :
    (build prefs c).result = .ok f ↔ ∃ declared placed,
      declareAll c.toList = .ok declared ∧ placeAll declared c.toList = .ok placed ∧
        (attachAll prefs placed (nestedPaths placed)).result = .ok f.roots := by
  rw [build_result, ofCompound, Log.Traced.result_bind, Outcome.bind_eq_ok_iff]
  constructor
  · rintro ⟨declared, hdeclared, h⟩
    rw [Log.Traced.result_bind, Outcome.bind_eq_ok_iff] at h
    obtain ⟨placed, hplaced, h⟩ := h
    rw [Log.Traced.result_bind, Outcome.bind_eq_ok_iff] at h
    obtain ⟨roots, hroots, h⟩ := h
    cases h
    exact ⟨declared, placed, hdeclared, hplaced, hroots⟩
  · rintro ⟨declared, placed, hdeclared, hplaced, hroots⟩
    refine ⟨declared, hdeclared, ?_⟩
    rw [Log.Traced.result_bind, Outcome.bind_eq_ok_iff]
    refine ⟨placed, hplaced, ?_⟩
    rw [Log.Traced.result_bind, Outcome.bind_eq_ok_iff]
    exact ⟨f.roots, hroots, rfl⟩

end Build

section Declared

variable {entries : List (String × Value)} {declared : List Node}

theorem paths_of_declares (h : Declares declared (declarations entries)) :
    declared.map Node.path = owners entries := by
  unfold owners
  rw [← h.1, List.map_map]
  rfl

/-- Declared objects hold nothing yet. -/
theorem holds_of_declares {declarations : List (String × Value)}
    (h : Declares declared declarations) :
    Holds declared (declared.map fun n => (n.path, n.classRef)) [] [] := by
  have hall : all declared = declared := by
    have hself : ∀ n ∈ declared, n.nodes = [n] := by
      intro n hn
      have hchildren : n.children = [] := by simp [children, h.2 n hn]
      rw [nodes_eq, hchildren, List.flatMap_nil]
    rw [all, List.flatMap_congr hself]
    exact List.flatMap_singleton' declared
  refine ⟨by rw [hall], ?_, ?_, ?_⟩
  · rw [hall, List.flatMap_eq_nil_iff.mpr fun n hn => by simp [Node.values, h.2 n hn]]
  · rw [hall, List.flatMap_eq_nil_iff.mpr fun n hn => by simp [Node.links, h.2 n hn]]
  · intro n hn
    rw [h.2 n (hall ▸ hn)]
    exact List.Pairwise.nil

end Declared

section Held

variable {prefs : Preferences.Building} {c : Arguments} {f : Forest}

/-- What a forest holds that is built from entries, and what the entries are like then. -/
structure Built (entries : List (String × Value)) (classes : List (String × String))
    (f : Forest) : Prop where
  declarable : Declarable entries
  few : (declarations entries).length ≤ Limits.objectCount
  classes_eq : asDeclarations classes = declarations entries
  placeable : ∀ assignment ∈ assignments entries,
    Placeable (owners entries) assignment.1 assignment.2.1
  attachable : ∀ path ∈ nestedOwners entries, Attachable (owners entries) path
  roots_eq : f.roots.map Node.path = rootOwners entries
  holds : Holds f.roots classes (assigned entries) ((nestedOwners entries).filterMap link?)

theorem Built.paths_eq {entries : List (String × Value)} {classes : List (String × String)}
    (h : Built entries classes f) : classes.map Prod.fst = owners entries := by
  unfold owners
  rw [← h.classes_eq, asDeclarations, List.map_map]
  rfl

/-- The objects to attach are the nested ones among the declared. -/
theorem nestedPaths_perm_nestedOwners {placed : List Node} {entries : List (String × Value)}
    (h : placed.map Node.path = owners entries) :
    (nestedPaths placed).Perm (nestedOwners entries) := by
  rw [nestedOwners, ← h]
  exact nestedPaths_perm placed

/-- A forest that is built holds what its entries describe. -/
theorem exists_built (h : (build prefs c).result = .ok f) :
    ∃ classes, Built c.toList classes f := by
  have hkeys := c.keys_nodup
  obtain ⟨declared, placed, hdeclared, hplaced, hroots⟩ := build_result_eq_ok_iff.mp h
  obtain ⟨hdeclarable, hfew, hdeclares⟩ := declareAll_eq_ok_iff.mp hdeclared
  obtain ⟨hplaceable, hpaths, hholds⟩ := placeAll_eq_ok hplaced
  have howners := paths_of_declares hdeclares
  have hdistinct : (placed.map Node.path).Nodup := by
    rw [hpaths, howners]
    exact owners_nodup hkeys
  have hnested := nestedPaths_perm_nestedOwners (hpaths.trans howners)
  obtain ⟨hattachable, hrootPaths, hrootsHold⟩ :=
    attachAll_eq_ok (movable_nestedPaths hdistinct) hroots
  rw [howners] at hplaceable
  rw [hpaths, howners] at hattachable hrootPaths
  refine ⟨declared.map fun n => (n.path, n.classRef), hdeclarable, hfew, ?_, hplaceable,
    fun path hpath => hattachable path (hnested.mem_iff.mpr hpath), ?_, ?_⟩
  · rw [asDeclarations, List.map_map]
    exact hdeclares.1
  · rw [hrootPaths]
    refine List.filter_congr fun path hpath => ?_
    have hiff : path ∈ nestedPaths placed ↔ isCompoundKey path = true := by
      rw [hnested.mem_iff, nestedOwners, List.mem_filter]
      exact and_iff_right hpath
    simp [hiff]
  · refine (hrootsHold _ _ (hholds _ _ (holds_of_declares hdeclares))).of_perm ?_ ?_
    · rw [List.append_nil]
    · rw [List.append_nil]
      exact hnested.filterMap _

end Held

section Regrouping

variable {entries : List (String × Value)} {classes : List (String × String)}
  {prefs : Preferences.Building} {c : Arguments} {f : Forest}

/-- A forest says what some entries say, object by object. -/
structure Regroups (entries : List (String × Value)) (f : Forest) : Prop where
  /-- The nodes are the declared objects, each with its class. -/
  classes : (f.nodes.map fun n => (n.path, Value.str n.classRef)).Perm (declarations entries)
  /-- The plain values in the slots are the assigned values, each in the slot that the last segment
  of its key denotes. -/
  values : ((f.nodes.flatMap Node.values).map fun (path, slot, v) => (path, Except.ok slot, v)).Perm
    ((assignments entries).map fun (owner, segment, v) =>
      (owner, Slot.parse segment (owner ++ "." ++ segment), v))
  /-- No two nodes have the same path. -/
  distinct : (f.nodes.map Node.path).Nodup
  /-- The roots are the objects without an owner, in the order of their declarations. -/
  roots : f.roots.map Node.path = rootOwners entries
  /-- A nested node is in the slot that the last segment of its path denotes, and the rest of its
  path is the path of the node that holds it. -/
  nested : ∀ parent ∈ f.nodes, ∀ slot child, (slot, Item.node child) ∈ parent.slots →
    ∃ segment, splitKey? child.path = some (parent.path, segment) ∧
      Slot.parse segment (child.path ++ "." ++ classSegment) = .ok slot
  /-- The slots of every node ascend. -/
  ordered : ∀ n ∈ f.nodes, Sorted.Ascending n.slots

theorem mem_links_all {trees : List Node} {n child : Node} {slot : Slot} (hn : n ∈ all trees)
    (hchild : (slot, Item.node child) ∈ n.slots) :
    (n.path, slot, child.path) ∈ (all trees).flatMap Node.links :=
  List.mem_flatMap.mpr ⟨n, hn, mem_links.mpr ⟨rfl, child, rfl, hchild⟩⟩

theorem mem_values_all {trees : List Node} {n : Node} {slot : Slot} {v : Value}
    (hn : n ∈ all trees) (hv : (slot, Item.value v) ∈ n.slots) :
    (n.path, slot, v) ∈ (all trees).flatMap Node.values :=
  List.mem_flatMap.mpr ⟨n, hn, mem_values.mpr ⟨rfl, hv⟩⟩

/-- A forest regroups the entries that it is built from. -/
theorem Built.regroups (h : Built entries classes f) (hdistinct : (owners entries).Nodup) :
    Regroups entries f where
  classes := by
    have hclasses := h.holds.classes_perm.map fun entry => (entry.1, Value.str entry.2)
    rw [List.map_map] at hclasses
    exact hclasses.trans (List.Perm.of_eq h.classes_eq)
  values := by
    refine (h.holds.values_perm.map _).trans (List.Perm.of_eq ?_)
    rw [assigned, List.map_map]
    refine List.map_congr_left fun (owner, segment, v) hmem => ?_
    have hparse : Slot.parse segment (owner ++ "." ++ segment) = .ok (Slot.ofSegment segment) :=
      Slot.parse_eq_ok_iff.mpr ⟨(h.placeable _ hmem).2, rfl⟩
    simp [hparse]
  distinct := by
    rw [← h.paths_eq] at hdistinct
    exact h.holds.paths_perm.nodup_iff.mpr hdistinct
  roots := h.roots_eq
  nested := by
    intro parent hparent slot child hchild
    have hlink := h.holds.links_perm.mem_iff.mp (mem_links_all hparent hchild)
    obtain ⟨path, hpath, hlink⟩ := List.mem_filterMap.mp hlink
    obtain ⟨⟨owner, segment⟩, hsplit, heq⟩ := Option.map_eq_some_iff.mp hlink
    simp only [Prod.mk.injEq] at heq
    obtain ⟨rfl, rfl, rfl⟩ := heq
    exact ⟨segment, hsplit, Slot.parse_eq_ok_iff.mpr ⟨(h.attachable _ hpath _ _ hsplit).2, rfl⟩⟩
  ordered := h.holds.ascending

/-- A forest counts its nodes. -/
theorem count_eq_length_nodes (f : Forest) : f.count = f.nodes.length := by
  unfold count nodes all
  have hrun : ∀ (roots : List Node) (n : Nat),
      roots.foldl (fun n root => n + root.count) n = n + (roots.flatMap Node.nodes).length := by
    intro roots
    induction roots with
    | nil => exact fun n => rfl
    | cons root rest ih =>
        intro n
        rw [List.foldl_cons, ih, count_eq_length, List.flatMap_cons, List.length_append, Nat.add_assoc]
  rw [hrun, Nat.zero_add]

/-- Below each level of nesting there is room for the levels that are left. -/
theorem Regroups.depth_le (h : Regroups entries f) (hdeclarable : Declarable entries) (n : Node)
    (hn : n ∈ f.nodes) : n.depth + nesting n.path ≤ Limits.nestingDepth := by
  -- a nested node has one more separator in its path and one more level above it
  induction n using Node.induction with
  | h n ih =>
      have hdeclared : nesting n.path + 1 ≤ Limits.nestingDepth := by
        have hmem := h.classes.mem_iff.mp (List.mem_map_of_mem hn)
        rw [← length_keySegments]
        exact (hdeclarable.classes _ hmem).2
      have hchildren : ∀ child ∈ n.children,
          child.depth ≤ Limits.nestingDepth - nesting n.path - 1 := by
        intro child hchild
        obtain ⟨slot, hslot⟩ := mem_children.mp hchild
        obtain ⟨segment, hsplit, -⟩ := h.nested n hn slot child hslot
        have hdepth := ih child hchild (mem_all_of_mem_children hn hchild)
        rw [nesting_of_splitKey? hsplit] at hdepth
        omega
      have hdepth := Node.depth_le hchildren
      omega

/-- All trees of a forest that is built are in order. -/
theorem ordered_of_build (h : (build prefs c).result = .ok f) : ∀ root ∈ f.roots, root.Ordered := by
  obtain ⟨classes, hbuilt⟩ := exists_built h
  exact fun root hroot m hm => hbuilt.holds.ascending m (List.mem_flatMap.mpr ⟨root, hroot, hm⟩)

/-- A forest that is built says what its entries say. It has a node for each declaration, and no
root is deeper than objects may be nested. -/
theorem build_regroups (h : (build prefs c).result = .ok f) :
    Regroups c.toList f ∧ f.count = (declarations c.toList).length ∧
      ∀ root ∈ f.roots, root.depth ≤ Limits.nestingDepth := by
  obtain ⟨classes, hbuilt⟩ := exists_built h
  have hregroups := hbuilt.regroups (owners_nodup c.keys_nodup)
  refine ⟨hregroups, ?_, ?_⟩
  · rw [count_eq_length_nodes, ← hregroups.classes.length_eq, List.length_map]
  · intro root hroot
    have hmem : root.path ∈ rootOwners c.toList :=
      hbuilt.roots_eq ▸ List.mem_map_of_mem hroot
    have hplain : isCompoundKey root.path = false := by
      simpa using (List.mem_filter.mp hmem).2
    have hdepth := hregroups.depth_le hbuilt.declarable root
      (mem_all_of_mem hroot)
    rwa [nesting_eq_zero hplain, Nat.add_zero] at hdepth

/-- The argument of a nested object, its declaration before that of its parent, and a plain
argument of the parent. -/
def nestedEntries : List (String × Value) :=
  [("net.head.width", .int 3), ("net.head.__class__", .str "Head"), ("net.__class__", .str "Net"),
    ("net.00", .bool true)]

def nestedForest : Forest where
  roots := [.mk "net" "Net" [(.positional 0, .value (.bool true)),
    (.named "head", .node (.mk "net.head" "Head" [(.named "width", .value (.int 3))]))]]

theorem build_nestedEntries :
    (build {} (Arguments.ofList nestedEntries)).result = .ok nestedForest := by
  rw [build_result_eq_ok_iff, Arguments.toList_ofList (by decide)]
  let placed : List Node := [.mk "net.head" "Head" [(.named "width", .value (.int 3))],
    .mk "net" "Net" [(.positional 0, .value (.bool true))]]
  refine ⟨[.new "net.head" "Head", .new "net" "Net"], placed, rfl, rfl, ?_⟩
  have hnested : nestedPaths placed = ["net.head"] := by decide +kernel
  rw [hnested]
  rfl

/-- A nested object that is declared before its parent. -/
theorem build_regroups_nested :
    (build {} (Arguments.ofList nestedEntries)).result = .ok nestedForest ∧
      Regroups (Arguments.ofList nestedEntries).toList nestedForest ∧ nestedForest.count = 2 := by
  have hregroups := build_regroups build_nestedEntries
  exact ⟨build_nestedEntries, hregroups.1, rfl⟩

end Regrouping

end Forest

end Hyperparams

import Hyperparams.Proofs.Tree.Below
import Hyperparams.Proofs.Tree.Positions

/-!
# Forests below a root

A tree with other paths holds the same, at these paths. A forest that is built from entries below a
root has one tree: the root, with the plain values and with the trees of the forest in its slots.
-/

namespace Hyperparams

namespace Node

mutual

def relocate (ρ : String → String) : Node → Node
  | mk path classRef slots => mk (ρ path) classRef (relocateSlots ρ slots)

def relocateSlots (ρ : String → String) : List (Slot × Item) → List (Slot × Item)
  | [] => []
  | (slot, .value v) :: rest => (slot, .value v) :: relocateSlots ρ rest
  | (slot, .node child) :: rest => (slot, .node (child.relocate ρ)) :: relocateSlots ρ rest

end

end Node

def Item.relocate (ρ : String → String) : Item → Item
  | value v => value v
  | node n => node (n.relocate ρ)

namespace Node

section Relocating

variable {ρ : String → String}

theorem relocateSlots_eq (ρ : String → String) (slots : List (Slot × Item)) :
    relocateSlots ρ slots = slots.map fun entry => (entry.1, entry.2.relocate ρ) := by
  induction slots with
  | nil => rfl
  | cons entry rest ih =>
      obtain ⟨slot, item⟩ := entry
      cases item with
      | value v => exact congrArg (_ :: ·) ih
      | node child => exact congrArg (_ :: ·) ih

theorem relocate_mk (path classRef : String) (slots : List (Slot × Item)) :
    (mk path classRef slots).relocate ρ =
      mk (ρ path) classRef (slots.map fun entry => (entry.1, entry.2.relocate ρ)) := by
  rw [relocate, relocateSlots_eq]

theorem path_relocate (n : Node) : (n.relocate ρ).path = ρ n.path := by
  cases n
  rfl

theorem classRef_relocate (n : Node) : (n.relocate ρ).classRef = n.classRef := by
  cases n
  rfl

theorem slots_relocate (n : Node) :
    (n.relocate ρ).slots = n.slots.map fun entry => (entry.1, entry.2.relocate ρ) := by
  obtain ⟨path, classRef, slots⟩ := n
  exact relocateSlots_eq ρ slots

theorem children_relocate (n : Node) :
    (n.relocate ρ).children = n.children.map (relocate ρ) := by
  unfold children
  rw [slots_relocate, List.filterMap_map, List.map_filterMap]
  refine List.filterMap_congr fun entry _ => ?_
  obtain ⟨slot, item⟩ := entry
  cases item <;> rfl

/-- The nodes of a tree elsewhere are the nodes of the tree, elsewhere. -/
theorem nodes_relocate (n : Node) : (n.relocate ρ).nodes = n.nodes.map (relocate ρ) := by
  induction n using Node.induction with
  | h n ih =>
      rw [nodes_eq, nodes_eq, List.map_cons, children_relocate, List.flatMap_map, List.map_flatMap]
      exact congrArg (_ :: ·) (List.flatMap_congr ih)

theorem values_relocate (n : Node) :
    (n.relocate ρ).values = n.values.map fun value => (ρ value.1, value.2) := by
  unfold values
  rw [slots_relocate, path_relocate, List.flatMap_map, List.map_flatMap]
  refine List.flatMap_congr fun entry _ => ?_
  obtain ⟨slot, item⟩ := entry
  cases item <;> rfl

theorem links_relocate (n : Node) :
    (n.relocate ρ).links = n.links.map fun link => (ρ link.1, link.2.1, ρ link.2.2) := by
  unfold links
  rw [slots_relocate, path_relocate, List.flatMap_map, List.map_flatMap]
  refine List.flatMap_congr fun entry _ => ?_
  obtain ⟨slot, item⟩ := entry
  cases item with
  | value v => rfl
  | node child =>
      change [(ρ n.path, slot, (child.relocate ρ).path)] = _
      rw [path_relocate]
      rfl

theorem all_relocate (trees : List Node) :
    all (trees.map (relocate ρ)) = (all trees).map (relocate ρ) := by
  unfold all
  rw [List.flatMap_map, List.map_flatMap]
  exact List.flatMap_congr fun n _ => nodes_relocate n

end Relocating

/-- The items that come as keyword arguments: plain values by key, and trees by the names of their
roots. -/
def keywordItems (plain : List (String × Value)) (roots : List Node) : List (String × Item) :=
  Sorted.ofList ((plain.map fun entry => (entry.1, .value entry.2)) ++
    roots.map fun n => (n.path, .node n))

/-- The node of a class that holds plain values and trees in slots of their names. -/
def gathering (root classRef : String) (plain : List (String × Value)) (roots : List Node) : Node :=
  mk root classRef ((atNames (keywordItems plain roots)).map fun entry =>
    (entry.1, entry.2.relocate (keyUnder root)))

end Node

namespace Forest

open Node

section Gathering

variable {root classRef : String} {plain : List (String × Value)} {roots : List Node}
  {classes : List (String × String)} {values : List (String × Slot × Value)}
  {links : List (String × Slot × String)}

/-- Trees with other paths hold the same at these paths. -/
theorem Holds.relocate (h : Holds roots classes values links) (ρ : String → String) :
    Holds (roots.map (Node.relocate ρ)) (classes.map fun entry => (ρ entry.1, entry.2))
      (values.map fun value => (ρ value.1, value.2))
      (links.map fun link => (ρ link.1, link.2.1, ρ link.2.2)) where
  classes_perm := by
    have hclasses := h.classes_perm.map fun entry => (ρ entry.1, entry.2)
    rw [List.map_map] at hclasses
    rw [all_relocate, List.map_map]
    refine (List.Perm.of_eq (List.map_congr_left fun n _ => ?_)).trans hclasses
    simp [path_relocate, classRef_relocate]
  values_perm := by
    have hvalues := h.values_perm.map fun value => (ρ value.1, value.2)
    rw [List.map_flatMap] at hvalues
    rw [all_relocate, List.flatMap_map]
    exact (List.Perm.of_eq (List.flatMap_congr fun n _ => values_relocate n)).trans hvalues
  links_perm := by
    have hlinks := h.links_perm.map fun link => (ρ link.1, link.2.1, ρ link.2.2)
    rw [List.map_flatMap] at hlinks
    rw [all_relocate, List.flatMap_map]
    exact (List.Perm.of_eq (List.flatMap_congr fun n _ => links_relocate n)).trans hlinks
  ascending := by
    intro m hm
    rw [all_relocate] at hm
    obtain ⟨n, hn, rfl⟩ := List.mem_map.mp hm
    rw [slots_relocate]
    exact (h.ascending n hn).map _ fun _ _ hlt => hlt

/-- Each plain value and each root is an item of its own. -/
theorem keywordItems_perm (hdistinct : (plain.map Prod.fst ++ roots.map Node.path).Nodup) :
    (keywordItems plain roots).Perm ((plain.map fun entry => (entry.1, .value entry.2)) ++
      roots.map fun n => (n.path, .node n)) := by
  refine Sorted.ofList_perm ?_
  rw [List.map_append, List.map_map, List.map_map]
  exact hdistinct

/-- The root of all holds the plain values, and the trees at longer paths. -/
theorem slots_gathering_perm (hdistinct : (plain.map Prod.fst ++ roots.map Node.path).Nodup)
    (root classRef : String) :
    (gathering root classRef plain roots).slots.Perm
      ((plain.map fun entry => (.named entry.1, .value entry.2)) ++
        roots.map fun n => (.named n.path, .node (n.relocate (keyUnder root)))) := by
  have hslots := (keywordItems_perm hdistinct).map fun entry : String × Item =>
    (Slot.named entry.1, entry.2.relocate (keyUnder root))
  rw [List.map_append, List.map_map, List.map_map] at hslots
  refine (List.Perm.of_eq ?_).trans hslots
  unfold gathering atNames
  rw [Node.slots, List.map_map]
  rfl

theorem ascending_slots_gathering (root classRef : String) (plain : List (String × Value))
    (roots : List Node) : Sorted.Ascending (gathering root classRef plain roots).slots := by
  unfold gathering atNames
  rw [Node.slots, List.map_map]
  exact List.Pairwise.map _ (fun _ _ => Slot.named_lt_named.mpr) (Sorted.ascending_ofList _)

/-- The nodes of the gathered tree are its root and all nodes at longer paths. -/
theorem all_gathering_perm (hdistinct : (plain.map Prod.fst ++ roots.map Node.path).Nodup)
    (root classRef : String) :
    (all [gathering root classRef plain roots]).Perm (gathering root classRef plain roots ::
      all (roots.map (Node.relocate (keyUnder root)))) := by
  have hchildren : (gathering root classRef plain roots).children.Perm
      (roots.map (Node.relocate (keyUnder root))) := by
    unfold children
    refine ((slots_gathering_perm hdistinct root classRef).filterMap _).trans (List.Perm.of_eq ?_)
    rw [List.filterMap_append, List.filterMap_map, List.filterMap_map]
    refine (congrArg (· ++ _) (List.filterMap_eq_nil_iff.mpr fun _ _ => rfl)).trans ?_
    exact congrFun List.filterMap_eq_map roots
  unfold all
  rw [List.flatMap_singleton, nodes_eq]
  exact (hchildren.flatMap_right _).cons _

/-- Trees in slots of one root, beside plain values, hold what they held and what the root holds. -/
theorem holds_gathering (h : Holds roots classes values links)
    (hdistinct : (plain.map Prod.fst ++ roots.map Node.path).Nodup) (root classRef : String) :
    Holds [gathering root classRef plain roots]
      ((root, classRef) :: classes.map fun entry => (keyUnder root entry.1, entry.2))
      ((plain.map fun entry => (root, .named entry.1, entry.2)) ++
        values.map fun value => (keyUnder root value.1, value.2))
      ((roots.map fun n => (root, .named n.path, keyUnder root n.path)) ++
        links.map fun link => (keyUnder root link.1, link.2.1, keyUnder root link.2.2)) := by
  have hall := all_gathering_perm hdistinct root classRef
  have hslots := slots_gathering_perm hdistinct root classRef
  have hmoved := h.relocate (keyUnder root)
  refine ⟨?_, ?_, ?_, ?_⟩
  · exact (hall.map _).trans (hmoved.classes_perm.cons _)
  · refine (hall.flatMap_right _).trans ?_
    rw [List.flatMap_cons]
    refine List.Perm.append ?_ hmoved.values_perm
    have hvalues := hslots.flatMap_right fun entry => entry.2.values root entry.1
    rw [List.flatMap_append, List.flatMap_map, List.flatMap_map] at hvalues
    refine hvalues.trans (List.Perm.of_eq ?_)
    refine (congrArg (_ ++ ·) (List.flatMap_eq_nil_iff.mpr fun _ _ => rfl)).trans ?_
    rw [List.append_nil, List.map_eq_flatMap]
    rfl
  · refine (hall.flatMap_right _).trans ?_
    rw [List.flatMap_cons]
    refine List.Perm.append ?_ hmoved.links_perm
    have hlinks := hslots.flatMap_right fun entry => entry.2.links root entry.1
    rw [List.flatMap_append, List.flatMap_map, List.flatMap_map] at hlinks
    refine hlinks.trans (List.Perm.of_eq ?_)
    refine (congrArg (· ++ _) (List.flatMap_eq_nil_iff.mpr fun _ _ => rfl)).trans ?_
    rw [List.nil_append, List.map_eq_flatMap]
    refine List.flatMap_congr fun n _ => ?_
    simp [Item.links, path_relocate]
  · intro m hm
    rcases List.mem_cons.mp (hall.mem_iff.mp hm) with rfl | hbelow
    · exact ascending_slots_gathering root classRef plain roots
    · exact hmoved.ascending m hbelow

end Gathering

section Built

variable {root classRef : String} {plain compound : List (String × Value)}

/-- Below a root the plain values are assigned to the root, and all others to longer paths. -/
theorem assigned_entriesBelow (h : Namable plain compound) (root classRef : String) :
    assigned (entriesBelow root classRef plain compound) =
      (plain.map fun entry => (root, .named entry.1, entry.2)) ++
        (assigned compound).map fun value => (keyUnder root value.1, value.2) := by
  unfold assigned
  rw [assignments_entriesBelow h, List.map_append, List.map_map, List.map_map, List.map_map]
  refine congrArg (· ++ _) (List.map_congr_left fun entry hentry => ?_)
  have hdigits := h.isDigits_eq_false (List.mem_append_left _ (List.mem_map_of_mem hentry))
  simp [Slot.ofSegment, hdigits]

/-- Each root below a root is in the slot of its name. -/
theorem links_entriesBelow_perm (h : Namable plain compound) (hroot : isCompoundKey root = false)
    (classRef : String) :
    ((nestedOwners (entriesBelow root classRef plain compound)).filterMap link?).Perm
      (((rootOwners compound).map fun name => (root, .named name, keyUnder root name)) ++
        ((nestedOwners compound).filterMap link?).map fun link =>
          (keyUnder root link.1, link.2.1, keyUnder root link.2.2)) := by
  have hroots : (rootOwners compound).filterMap (link? ∘ keyUnder root) =
      (rootOwners compound).map fun name => (root, .named name, keyUnder root name) := by
    rw [← List.filterMap_eq_map]
    refine List.filterMap_congr fun owner howner => ?_
    have hdigits := h.isDigits_eq_false (List.mem_append_right _ howner)
    have hsplit : splitKey? (keyUnder root owner) = some (root, owner) :=
      splitKey?_keyUnder_of_not_compound (by simpa using (List.mem_filter.mp howner).2)
    simp [link?, hsplit, Slot.ofSegment, hdigits]
  have hnested : (nestedOwners compound).filterMap (link? ∘ keyUnder root) =
      ((nestedOwners compound).filterMap link?).map fun link =>
        (keyUnder root link.1, link.2.1, keyUnder root link.2.2) := by
    rw [List.map_filterMap]
    refine List.filterMap_congr fun owner howner => ?_
    obtain ⟨parent, segment, hsplit⟩ := exists_splitKey? (List.mem_filter.mp howner).2
    simp [link?, hsplit, splitKey?_keyUnder hsplit]
  have hmoved := (nestedOwners_entriesBelow_perm h hroot classRef).filterMap link?
  rwa [List.filterMap_map, List.filterMap_append, hroots, hnested] at hmoved

variable {prefs prefs' : Preferences.Building} {c c' : Arguments} {f f' : Forest}

/-- A forest that is built from entries below a root is that root, with the plain values and with
the trees that the other entries would make. -/
theorem roots_of_build_entriesBelow (hf : (build prefs c).result = .ok f)
    (hf' : (build prefs' c').result = .ok f')
    (hentries : c'.toList.Perm (entriesBelow root classRef plain c.toList))
    (h : Namable plain c.toList) (hroot : isCompoundKey root = false)
    (hdisjoint : (plain.map Prod.fst).Disjoint (rootOwners c.toList)) :
    f'.roots = [gathering root classRef plain f.roots] := by
  obtain ⟨classes, hbuilt⟩ := exists_built hf
  obtain ⟨classes', hbuilt'⟩ := exists_built hf'
  have hdistinct : (plain.map Prod.fst ++ f.roots.map Node.path).Nodup := by
    have hkeys := h.distinct
    rw [List.map_append] at hkeys
    rw [hbuilt.roots_eq]
    exact (List.nodup_append'.mp hkeys).1.append
      ((owners_nodup (List.nodup_append'.mp hkeys).2.1).filter _) hdisjoint
  have hholds := holds_gathering hbuilt.holds hdistinct root classRef
  have hclasses : classes'.Perm
      ((root, classRef) :: classes.map fun entry => (keyUnder root entry.1, entry.2)) := by
    rw [← asDeclarations_perm_iff, hbuilt'.classes_eq]
    refine (declarations_perm hentries).trans (List.Perm.of_eq ?_)
    rw [declarations_entriesBelow h, ← hbuilt.classes_eq]
    unfold asDeclarations
    rw [List.map_cons, List.map_map, List.map_map]
    rfl
  have hvalues : (assigned c'.toList).Perm
      ((plain.map fun entry => (root, .named entry.1, entry.2)) ++
        (assigned c.toList).map fun value => (keyUnder root value.1, value.2)) := by
    rw [← assigned_entriesBelow h root classRef]
    exact (hentries.filterMap _).map _
  have hlinks : ((nestedOwners c'.toList).filterMap link?).Perm
      ((f.roots.map fun n => (root, .named n.path, keyUnder root n.path)) ++
        ((nestedOwners c.toList).filterMap link?).map fun link =>
          (keyUnder root link.1, link.2.1, keyUnder root link.2.2)) := by
    have hmoved := ((nestedOwners_perm hentries).filterMap link?).trans
      (links_entriesBelow_perm h hroot classRef)
    rwa [← hbuilt.roots_eq, List.map_map] at hmoved
  have hpaths : f'.roots.map Node.path = [root] := by
    have howners := (owners_perm hentries).filter fun owner => !isCompoundKey owner
    rw [hbuilt'.roots_eq]
    refine List.perm_singleton.mp (howners.trans (List.Perm.of_eq ?_))
    exact rootOwners_entriesBelow h hroot classRef
  obtain ⟨n, hn, hpath⟩ := List.map_eq_singleton_iff.mp hpaths
  have hholds' := hbuilt'.holds
  rw [hn] at hholds' ⊢
  -- the two trees hold the same, and what it holds determines a tree
  refine congrArg (fun n => [n]) (node_eq_of_holds hholds' hholds hclasses hvalues hlinks ?_ n
    (mem_all_of_mem List.mem_cons_self) _ (mem_all_of_mem List.mem_cons_self) hpath)
  rw [hbuilt'.paths_eq]
  exact owners_nodup c'.keys_nodup

end Built

end Forest

end Hyperparams

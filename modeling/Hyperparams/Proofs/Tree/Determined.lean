import Hyperparams.Proofs.Outcomes
import Hyperparams.Proofs.Tree.Acceptance

/-!
# Forests are determined by what they hold

Trees that hold the same classes, values and links have the same node at every path, since links say
which nodes are in the slots of a node and slots ascend. So the same entries in another order make
the same roots, or none.
-/

namespace Hyperparams

/-- Lists are equal up to order if their keys are and elements with the same key are equal. -/
theorem perm_of_keys {α κ : Type} (key : α → κ) {l l' : List α}
    (hkeys : (l.map key).Perm (l'.map key)) (hdistinct : (l.map key).Nodup)
    (heq : ∀ a ∈ l, ∀ b ∈ l', key a = key b → a = b) : l.Perm l' := by
  refine (List.perm_ext_iff_of_nodup (List.Nodup.of_map _ hdistinct)
    (List.Nodup.of_map _ (hkeys.nodup_iff.mp hdistinct))).mpr fun a => ⟨fun ha => ?_, fun ha => ?_⟩
  · obtain ⟨b, hb, hkey⟩ := List.mem_map.mp (hkeys.mem_iff.mp (List.mem_map_of_mem ha))
    exact heq a ha b hb hkey.symm ▸ hb
  · obtain ⟨b, hb, hkey⟩ := List.mem_map.mp (hkeys.mem_iff.mpr (List.mem_map_of_mem ha))
    exact heq b hb a ha hkey ▸ hb

namespace Forest

open Node

section Determined

variable {trees trees' : List Node} {classes classes' : List (String × String)}
  {values values' : List (String × Slot × Value)} {links links' : List (String × Slot × String)}

/-- Among nodes with distinct paths, a path determines the node. -/
theorem eq_of_path_eq (hdistinct : ((all trees).map Node.path).Nodup) {n m : Node}
    (hn : n ∈ all trees) (hm : m ∈ all trees) (hpath : n.path = m.path) : n = m :=
  List.inj_on_of_nodup_map hdistinct hn hm hpath

/-- What is in the slots of a node is held for its path. -/
theorem mem_slots_of_mem_values (hdistinct : ((all trees).map Node.path).Nodup) {n : Node}
    (hn : n ∈ all trees) {slot : Slot} {v : Value}
    (hv : (n.path, slot, v) ∈ (all trees).flatMap Node.values) : (slot, Item.value v) ∈ n.slots := by
  obtain ⟨m, hm, hmem⟩ := List.mem_flatMap.mp hv
  obtain ⟨hpath, hslot⟩ := mem_values.mp hmem
  exact eq_of_path_eq hdistinct hn hm hpath ▸ hslot

theorem exists_child_of_mem_links (hdistinct : ((all trees).map Node.path).Nodup) {n : Node}
    (hn : n ∈ all trees) {slot : Slot} {path : String}
    (hlink : (n.path, slot, path) ∈ (all trees).flatMap Node.links) :
    ∃ child, child.path = path ∧ (slot, Item.node child) ∈ n.slots := by
  obtain ⟨m, hm, hmem⟩ := List.mem_flatMap.mp hlink
  obtain ⟨hpath, child, hchild, hslot⟩ := mem_links.mp hmem
  exact ⟨child, hchild, eq_of_path_eq hdistinct hn hm hpath ▸ hslot⟩

/-- What is in the slots of a node is in those of a node with the same path, if the same is held and
nested nodes with the same path are equal. -/
theorem slots_subset (hdistinct : ((all trees').map Node.path).Nodup)
    (hvalues : ((all trees).flatMap Node.values).Perm ((all trees').flatMap Node.values))
    (hlinks : ((all trees).flatMap Node.links).Perm ((all trees').flatMap Node.links))
    {n n' : Node} (hn : n ∈ all trees) (hn' : n' ∈ all trees') (hpath : n.path = n'.path)
    (hchildren : ∀ child ∈ n.children, ∀ child' ∈ n'.children, child.path = child'.path →
      child = child') : n.slots ⊆ n'.slots := by
  rintro ⟨slot, item⟩ hentry
  cases item with
  | value v =>
      refine mem_slots_of_mem_values hdistinct hn' ?_
      exact hpath ▸ hvalues.mem_iff.mp (mem_values_all hn hentry)
  | node child =>
      obtain ⟨child', hsame, hentry'⟩ := exists_child_of_mem_links hdistinct hn'
        (hpath ▸ hlinks.mem_iff.mp (mem_links_all hn hentry))
      rw [hchildren child (mem_children.mpr ⟨slot, hentry⟩) child'
        (mem_children.mpr ⟨slot, hentry'⟩) hsame.symm]
      exact hentry'

/-- Nodes with the same path are equal where the same is held. -/
theorem node_eq_of_holds (h : Holds trees classes values links)
    (h' : Holds trees' classes' values' links') (hclasses : classes.Perm classes')
    (hvalues : values.Perm values') (hlinks : links.Perm links')
    (hdistinct : (classes.map Prod.fst).Nodup) (n : Node) (hn : n ∈ all trees) (n' : Node)
    (hn' : n' ∈ all trees') (hpath : n.path = n'.path) : n = n' := by
  have hdistinct' := (hclasses.map Prod.fst).nodup_iff.mp hdistinct
  have hpaths := h.paths_perm.nodup_iff.mpr hdistinct
  have hpaths' := h'.paths_perm.nodup_iff.mpr hdistinct'
  have hvalue := h.values_perm.trans (hvalues.trans h'.values_perm.symm)
  have hlink := h.links_perm.trans (hlinks.trans h'.links_perm.symm)
  -- nodes that are nested in both are equal before the nodes that hold them are
  induction n using Node.induction generalizing n' with
  | h n ih =>
      have hclass : n.classRef = n'.classRef := by
        have hmem := hclasses.mem_iff.mp (h.classes_perm.mem_iff.mp (List.mem_map_of_mem hn))
        have hmem' := h'.classes_perm.mem_iff.mp (List.mem_map_of_mem hn')
        exact congrArg Prod.snd (List.inj_on_of_nodup_map hdistinct' hmem hmem' hpath)
      have hchildren : ∀ child ∈ n.children, ∀ child' ∈ n'.children, child.path = child'.path →
          child = child' := fun child hchild child' hchild' =>
        ih child hchild (mem_all_of_mem_children hn hchild) child'
          (mem_all_of_mem_children hn' hchild')
      have hslots : n.slots = n'.slots := by
        refine (h.ascending n hn).eq_of_perm (h'.ascending n' hn') ?_
        refine (List.perm_ext_iff_of_nodup (List.Nodup.of_map _ (h.ascending n hn).nodup)
          (List.Nodup.of_map _ (h'.ascending n' hn').nodup)).mpr fun entry => ⟨?_, ?_⟩
        · exact fun hentry => slots_subset hpaths' hvalue hlink hn hn' hpath hchildren hentry
        · exact fun hentry => slots_subset hpaths hvalue.symm hlink.symm hn' hn hpath.symm
            (fun child' hchild' child hchild heq =>
              (hchildren child hchild child' hchild' heq.symm).symm)
            hentry
      obtain ⟨path, classRef, slots⟩ := n
      obtain ⟨path', classRef', slots'⟩ := n'
      cases hpath
      cases hclass
      cases hslots
      rfl

end Determined

section Reordering

variable {entries entries' : List (String × Value)}

theorem declarations_perm (h : entries.Perm entries') :
    (declarations entries).Perm (declarations entries') :=
  h.filterMap _

theorem owners_perm (h : entries.Perm entries') : (owners entries).Perm (owners entries') :=
  (declarations_perm h).map _

theorem nestedOwners_perm (h : entries.Perm entries') :
    (nestedOwners entries).Perm (nestedOwners entries') :=
  (owners_perm h).filter _

/-- The order of entries does not matter to what goes into slots. -/
theorem items_perm (h : entries.Perm entries') : (items entries).Perm (items entries') :=
  ((h.filterMap _).map _).append ((nestedOwners_perm h).filterMap _)

/-- Whether entries are acceptable does not depend on their order. -/
theorem Acceptable.of_perm (h : Acceptable entries) (hperm : entries.Perm entries') :
    Acceptable entries' where
  segments entry hentry := h.segments entry (hperm.mem_iff.mpr hentry)
  classes declaration hmem :=
    h.classes declaration ((declarations_perm hperm).mem_iff.mpr hmem)
  few := (declarations_perm hperm).length_eq ▸ h.few
  placed item hitem := by
    obtain ⟨howner, hrange⟩ := h.placed item ((items_perm hperm).mem_iff.mpr hitem)
    exact ⟨(owners_perm hperm).mem_iff.mp howner, hrange⟩
  free := by
    have hfree := items_free_iff.mp h.free
    rw [← items_spots] at hfree
    rw [items_free_iff, ← items_spots]
    exact ((items_perm hperm).map _).nodup_iff.mp hfree

/-- Declarations that are made of classes have these classes. -/
theorem asDeclarations_perm_iff {classes classes' : List (String × String)} :
    (asDeclarations classes).Perm (asDeclarations classes') ↔ classes.Perm classes' :=
  List.map_perm_map_iff fun entry entry' heq => by simpa [Prod.ext_iff] using heq

variable {prefs : Preferences.Building} {c c' : Arguments}

/-- Two forests with the same roots in any order, no two of them with the same path. -/
structure SameRoots (f f' : Forest) : Prop where
  perm : f.roots.Perm f'.roots
  distinct : (f.roots.map Node.path).Nodup

/-- Compound arguments with the same bindings are both refused or make the same roots. -/
theorem agree_build (hkeys : ∀ key ∈ c.keys, isCompoundKey key = true)
    (h : c.toList.Perm c'.toList) :
    Outcome.Agree SameRoots (build prefs c).result (build prefs c').result := by
  have hkeys' : ∀ key ∈ c'.keys, isCompoundKey key = true := fun key hkey =>
    hkeys key ((h.map Prod.fst).mem_iff.mpr hkey)
  refine Outcome.Agree.of_ok_iff ⟨?_, ?_⟩ fun f f' hf hf' => ?_
  · rintro ⟨f, hf⟩
    exact exists_build hkeys' ((acceptable_of_build hf).of_perm h)
  · rintro ⟨f', hf'⟩
    exact exists_build hkeys ((acceptable_of_build hf').of_perm h.symm)
  · obtain ⟨classes, hbuilt⟩ := exists_built hf
    obtain ⟨classes', hbuilt'⟩ := exists_built hf'
    have howners := owners_nodup c.keys_nodup
    have hclasses : classes.Perm classes' := by
      rw [← asDeclarations_perm_iff, hbuilt.classes_eq, hbuilt'.classes_eq]
      exact declarations_perm h
    have hdistinct : (f.roots.map Node.path).Nodup := by
      rw [hbuilt.roots_eq]
      exact howners.filter _
    refine ⟨perm_of_keys Node.path ?_ hdistinct fun n hn n' hn' hpath => ?_, hdistinct⟩
    · rw [hbuilt.roots_eq, hbuilt'.roots_eq]
      exact (owners_perm h).filter _
    · exact node_eq_of_holds hbuilt.holds hbuilt'.holds hclasses ((h.filterMap _).map _)
        ((nestedOwners_perm h).filterMap _) (hbuilt.paths_eq ▸ howners) n (mem_all_of_mem hn) n'
        (mem_all_of_mem hn') hpath

end Reordering

end Forest

end Hyperparams

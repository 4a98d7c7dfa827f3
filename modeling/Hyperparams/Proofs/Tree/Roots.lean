import Hyperparams.Proofs.Tree.Acceptance

/-!
# Entries below the roots

The first segment of a key is the name of the root that the key speaks about. So the entries fall
into groups by root, and each tree of a forest says what the entries of its group say.
-/

namespace Hyperparams

/-- Where no two elements have the same key, one element has the key of a given one. -/
theorem filter_eq_singleton {α κ : Type} [DecidableEq κ] {key : α → κ} {l : List α} {a : α}
    (hdistinct : (l.map key).Nodup) (ha : a ∈ l) : l.filter (key · = key a) = [a] := by
  induction l with
  | nil => cases ha
  | cons b rest ih =>
      obtain ⟨hfirst, hrest⟩ := List.nodup_cons.mp hdistinct
      rcases List.mem_cons.mp ha with rfl | hmem
      · rw [List.filter_cons_of_pos (by simp)]
        refine congrArg (a :: ·) (List.filter_eq_nil_iff.mpr fun b hb => ?_)
        rw [decide_eq_true_eq]
        exact fun heq => hfirst (heq ▸ List.mem_map_of_mem hb)
      · have hne : key b ≠ key a := fun heq => hfirst (heq ▸ List.mem_map_of_mem hmem)
        rw [List.filter_cons_of_neg (by simpa using hne), ih hrest hmem]

/-- A condition on lists that are joined may be checked beforehand. -/
theorem filter_flatMap_of_forall {α β : Type} {l : List α} {g : α → List β} {p : β → Bool}
    {q : α → Bool} (h : ∀ a ∈ l, ∀ b ∈ g a, p b = q a) :
    (l.flatMap g).filter p = (l.filter q).flatMap g := by
  induction l with
  | nil => rfl
  | cons a rest ih =>
      obtain ⟨hfirst, hrest⟩ := List.forall_mem_cons.mp h
      rw [List.flatMap_cons, List.filter_append, ih hrest]
      cases hq : q a with
      | true =>
          rw [List.filter_cons_of_pos hq, List.flatMap_cons]
          refine congrArg (· ++ _) (List.filter_eq_self.mpr fun b hb => ?_)
          rw [hfirst b hb, hq]
      | false =>
          rw [List.filter_cons_of_neg (by simp [hq])]
          refine (congrArg (· ++ _) (List.filter_eq_nil_iff.mpr fun b hb => ?_)).trans
            (List.nil_append _)
          simp [hfirst b hb, hq]

namespace Forest

open Node

def entriesUnder (root : String) (entries : List (String × Value)) : List (String × Value) :=
  entries.filter fun entry => keyRoot entry.1 = root

section Groups

variable {entries : List (String × Value)} {f : Forest} {n root : Node}

theorem declarations_entriesUnder (name : String) (entries : List (String × Value)) :
    declarations (entriesUnder name entries) =
      (declarations entries).filter fun declaration => keyRoot declaration.1 = name := by
  unfold declarations entriesUnder
  rw [List.filterMap_filter, List.filter_filterMap]
  refine List.filterMap_congr fun entry _ => ?_
  cases hdeclaration : declaration? entry with
  | none => simp
  | some declaration =>
      have hroot := keyRoot_of_splitKey? (declaration?_eq_some_iff.mp hdeclaration).1
      simp [hroot, Option.filter_some]

theorem assignments_entriesUnder (name : String) (entries : List (String × Value)) :
    assignments (entriesUnder name entries) =
      (assignments entries).filter fun assignment => keyRoot assignment.1 = name := by
  unfold assignments entriesUnder
  rw [List.filterMap_filter, List.filter_filterMap]
  refine List.filterMap_congr fun entry _ => ?_
  cases hassignment : assignment? entry with
  | none => simp
  | some assignment =>
      have hroot := keyRoot_of_splitKey? (assignment?_eq_some_iff.mp hassignment).1
      simp [hroot, Option.filter_some]

/-- The objects under a name are those whose paths begin with it. -/
theorem owners_entriesUnder (name : String) (entries : List (String × Value)) :
    owners (entriesUnder name entries) = (owners entries).filter (keyRoot · = name) := by
  unfold owners
  rw [declarations_entriesUnder, List.filter_map]
  rfl

theorem rootOwners_entriesUnder (name : String) (entries : List (String × Value)) :
    rootOwners (entriesUnder name entries) = (rootOwners entries).filter (keyRoot · = name) := by
  unfold rootOwners
  rw [owners_entriesUnder, List.filter_filter, List.filter_filter]
  simp only [Bool.and_comm]

/-- The nodes of a tree have paths that begin like the path of its root. -/
theorem Regroups.keyRoot_path (h : Regroups entries f) (hn : n ∈ f.nodes) {m : Node}
    (hm : m ∈ n.nodes) : keyRoot m.path = keyRoot n.path := by
  induction n using Node.induction with
  | h n ih =>
      rw [nodes_eq] at hm
      rcases List.mem_cons.mp hm with rfl | hbelow
      · rfl
      · obtain ⟨child, hchild, hm⟩ := List.mem_flatMap.mp hbelow
        obtain ⟨slot, hslot⟩ := mem_children.mp hchild
        obtain ⟨segment, hsplit, -⟩ := h.nested n hn slot child hslot
        exact (ih child hchild (mem_all_of_mem_children hn hchild) hm).trans
          (keyRoot_of_splitKey? hsplit)

/-- A root is under its own name. -/
theorem Regroups.keyRoot_root (h : Regroups entries f) (hroot : root ∈ f.roots) :
    keyRoot root.path = root.path := by
  have hmem : root.path ∈ rootOwners entries := h.roots ▸ List.mem_map_of_mem hroot
  exact keyRoot_of_not_compound (by simpa using (List.mem_filter.mp hmem).2)

theorem roots_sublist (f : Forest) : f.roots.Sublist f.nodes := by
  unfold Forest.nodes all
  induction f.roots with
  | nil => exact List.Sublist.slnil
  | cons root rest ih =>
      rw [List.flatMap_cons, nodes_eq, List.cons_append]
      exact (ih.trans (List.sublist_append_right _ _)).cons_cons root

theorem Regroups.filter_roots (h : Regroups entries f) (hroot : root ∈ f.roots) :
    f.roots.filter (keyRoot ·.path = root.path) = [root] := by
  rw [← filter_eq_singleton (h.distinct.sublist (f.roots_sublist.map _)) hroot]
  refine List.filter_congr fun r hr => ?_
  rw [h.keyRoot_root hr]

/-- The nodes of a tree are those with paths that begin with the name of the root. -/
theorem Regroups.filter_nodes (h : Regroups entries f) (hroot : root ∈ f.roots) :
    f.nodes.filter (keyRoot ·.path = root.path) = root.nodes := by
  have htrees : ∀ r ∈ f.roots, ∀ m ∈ r.nodes,
      decide (keyRoot m.path = root.path) = decide (keyRoot r.path = root.path) := by
    intro r hr m hm
    rw [h.keyRoot_path (mem_all_of_mem hr) hm]
  unfold Forest.nodes all
  rw [filter_flatMap_of_forall htrees, h.filter_roots hroot, List.flatMap_singleton]

/-- Each tree of a forest says what the entries about its root say. -/
theorem Regroups.under (h : Regroups entries f) (hroot : root ∈ f.roots) :
    Regroups (entriesUnder root.path entries) ⟨[root]⟩ := by
  have hnodes : (Forest.mk [root]).nodes = f.nodes.filter (keyRoot ·.path = root.path) := by
    rw [h.filter_nodes hroot]
    exact List.flatMap_singleton _ _
  have hsubset : ∀ m ∈ (Forest.mk [root]).nodes, m ∈ f.nodes := fun m hm => by
    rw [hnodes] at hm
    exact List.mem_of_mem_filter hm
  refine ⟨?_, ?_, ?_, ?_, ?_, ?_⟩
  · have hclasses := h.classes.filter fun declaration => keyRoot declaration.1 = root.path
    rw [List.filter_map] at hclasses
    rw [hnodes, declarations_entriesUnder]
    exact hclasses
  · have hvalues := h.values.filter fun value => keyRoot value.1 = root.path
    have hheld : ∀ n ∈ f.nodes, ∀ value ∈ n.values,
        decide (keyRoot value.1 = root.path) = decide (keyRoot n.path = root.path) := by
      rintro n - ⟨path, slot, v⟩ hvalue
      rw [(mem_values.mp hvalue).1]
    rw [List.filter_map, List.filter_map] at hvalues
    rw [hnodes, assignments_entriesUnder, ← filter_flatMap_of_forall hheld]
    exact hvalues
  · rw [hnodes]
    exact h.distinct.sublist (List.filter_sublist.map _)
  · rw [rootOwners_entriesUnder, ← h.roots, List.filter_map, Function.comp_def,
      h.filter_roots hroot]
  · exact fun parent hparent => h.nested parent (hsubset parent hparent)
  · exact fun m hm => h.ordered m (hsubset m hm)

/-- Every declared object is below the root that its path begins with. -/
theorem Acceptable.keyRoot_owner (h : Acceptable entries) {owner : String}
    (howner : owner ∈ owners entries) : keyRoot owner ∈ rootOwners entries := by
  -- the owner of a nested object has one separator less in its path
  induction hnesting : nesting owner using Nat.strong_induction_on generalizing owner with
  | h k ih =>
      cases hcompound : isCompoundKey owner with
      | false =>
          rw [keyRoot_of_not_compound hcompound]
          exact List.mem_filter.mpr ⟨howner, by simp [hcompound]⟩
      | true =>
          obtain ⟨parent, segment, hsplit⟩ := exists_splitKey? hcompound
          have hnested : owner ∈ nestedOwners entries := List.mem_filter.mpr ⟨howner, hcompound⟩
          have hparent := (h.placed (parent, segment) (List.mem_append_right _
            (List.mem_filterMap.mpr ⟨owner, hnested, hsplit⟩))).1
          have hless := nesting_of_splitKey? hsplit
          rw [keyRoot_of_splitKey? hsplit]
          exact ih (nesting parent) (by omega) hparent rfl

/-- Every compound key speaks about a root. -/
theorem Acceptable.keyRoot_key (h : Acceptable entries) {entry : String × Value}
    (hentry : entry ∈ entries) (hcompound : isCompoundKey entry.1 = true) :
    keyRoot entry.1 ∈ rootOwners entries := by
  obtain ⟨owner, segment, hsplit⟩ := exists_splitKey? hcompound
  rw [keyRoot_of_splitKey? hsplit]
  refine h.keyRoot_owner ?_
  by_cases hclass : segment = classSegment
  · subst hclass
    have hdeclaration := declaration?_eq_some_iff.mpr ⟨hsplit, rfl⟩
    exact List.mem_map.mpr ⟨_, List.mem_filterMap.mpr ⟨entry, hentry, hdeclaration⟩, rfl⟩
  · have hassignment := assignment?_eq_some_iff.mpr ⟨hsplit, hclass, rfl⟩
    exact (h.placed (owner, segment) (List.mem_append_left _ (List.mem_map.mpr
      ⟨_, List.mem_filterMap.mpr ⟨entry, hentry, hassignment⟩, rfl⟩))).1

/-- Every root is declared by a key that it begins. -/
theorem exists_key_of_rootOwner {name : String} (h : name ∈ rootOwners entries) :
    ∃ entry ∈ entries, isCompoundKey entry.1 = true ∧ keyRoot entry.1 = name := by
  obtain ⟨howner, hplain⟩ := List.mem_filter.mp h
  obtain ⟨⟨owner, value⟩, hdeclaration, rfl⟩ := List.mem_map.mp howner
  obtain ⟨entry, hentry, hdeclares⟩ := List.mem_filterMap.mp hdeclaration
  have hsplit := (declaration?_eq_some_iff.mp hdeclares).1
  refine ⟨entry, hentry, ?_, ?_⟩
  · rw [(splitKey?_eq_some_iff.mp hsplit).1]
    exact isCompoundKey_join owner classSegment
  · rw [keyRoot_of_splitKey? hsplit]
    exact keyRoot_of_not_compound (by simpa using hplain)

/-- Every entry belongs to a root, and every root has an entry. -/
theorem Acceptable.mem_rootOwners_iff (h : Acceptable entries)
    (hcompound : ∀ entry ∈ entries, isCompoundKey entry.1 = true) {name : String} :
    name ∈ rootOwners entries ↔ name ∈ (entries.map Prod.fst).map keyRoot := by
  rw [List.map_map, List.mem_map]
  constructor
  · intro hname
    obtain ⟨entry, hentry, -, hroot⟩ := exists_key_of_rootOwner hname
    exact ⟨entry, hentry, hroot⟩
  · rintro ⟨entry, hentry, rfl⟩
    exact h.keyRoot_key hentry (hcompound entry hentry)

end Groups

end Forest

end Hyperparams

import Mathlib.Data.List.Sort
import Hyperparams.Proofs.Tree.Placing

/-!
# Attaching nested objects

Nested objects move into their parents one after the other. A parent lies one level above its
children, so in the order from the deepest to the highest it is still there when a child moves, and
the child is complete.
-/

namespace Hyperparams

namespace Forest

open Node

section Step

variable {prefs : Preferences.Building} {nodes nodes' : List Node} {path parent segment : String}
  {child : Node}

/-- Where paths differ, taking away the node at a path takes away one node. -/
theorem perm_cons_filter (hdistinct : (nodes.map Node.path).Nodup)
    (hfind : nodes.find? (·.path = path) = some child) :
    nodes.Perm (child :: nodes.filter (·.path ≠ path)) := by
  obtain ⟨hpath, before, after, rfl, hbefore⟩ := List.find?_eq_some_iff_append.mp hfind
  have hpath' : child.path = path := by simpa using hpath
  have hafter : ∀ n ∈ after, n.path ≠ path := by
    intro n hn heq
    rw [List.map_append, List.map_cons] at hdistinct
    have hnot := (List.nodup_cons.mp (List.Nodup.of_append_right hdistinct)).1
    rw [hpath', ← heq] at hnot
    exact hnot (List.mem_map_of_mem hn)
  have hfilter : (before ++ child :: after).filter (·.path ≠ path) = before ++ after := by
    rw [List.filter_append, List.filter_cons_of_neg (by simpa using hpath'),
      List.filter_eq_self.mpr fun n hn => by simpa using hbefore n hn,
      List.filter_eq_self.mpr fun n hn => by simpa using hafter n hn]
  rw [hfilter]
  exact List.perm_middle

theorem exists_of_modifyAt_path {change : Node → Except TreeError Node} {missing : TreeError}
    (h : modifyAt path change missing nodes = .ok nodes') : path ∈ nodes.map Node.path := by
  obtain ⟨before, n, n', after, rfl, -, hpath, -⟩ := exists_of_modifyAt h
  simp [← hpath]

/-- Attaching a nested object is filling a slot of its parent, once the object is taken away. -/
theorem attach_result_eq_ok_iff (hsplit : splitKey? path = some (parent, segment))
    (hfind : nodes.find? (·.path = path) = some child) :
    (attach prefs nodes path).result = .ok nodes' ↔ Slot.InRange segment ∧
      modifyAt parent (·.fill (Slot.ofSegment segment) (.node child))
        (.missingClassDeclaration (path ++ "." ++ classSegment) parent)
        (nodes.filter (·.path ≠ path)) = .ok nodes' := by
  unfold attach
  rw [hsplit, hfind]
  simp only [Log.Traced.result_bind, Log.Traced.result_ofExcept]
  rw [Outcome.bind_eq_ok_iff]
  constructor
  · rintro ⟨slot, hslot, h⟩
    obtain ⟨hrange, rfl⟩ := Slot.parse_eq_ok_iff.mp hslot
    refine ⟨hrange, ?_⟩
    -- the parent is looked for once more before it is changed
    split at h
    · cases h
    · split at h
      · exact h
      · exact h
  · rintro ⟨hrange, h⟩
    refine ⟨_, Slot.parse_eq_ok_iff.mpr ⟨hrange, rfl⟩, ?_⟩
    have hparent := exists_of_modifyAt_path h
    rw [if_neg (by simpa [and_assoc] using hparent)]
    split
    · exact h
    · exact h

theorem exists_find? (hmem : path ∈ nodes.map Node.path) :
    ∃ child, nodes.find? (·.path = path) = some child ∧ child.path = path := by
  have hsome : (nodes.find? (·.path = path)).isSome = true := by
    rw [List.find?_isSome]
    simpa using hmem
  obtain ⟨child, hfind⟩ := Option.isSome_iff_exists.mp hsome
  exact ⟨child, hfind, by simpa using List.find?_some hfind⟩

/-- Attaching delivers an object to its parent and takes it off the list. -/
theorem delivered_of_attach (hdistinct : (nodes.map Node.path).Nodup)
    (hsplit : splitKey? path = some (parent, segment)) (hmem : path ∈ nodes.map Node.path)
    (h : (attach prefs nodes path).result = .ok nodes') :
    Placeable (nodes.map Node.path) parent segment ∧
      nodes'.map Node.path = (nodes.map Node.path).filter (· ≠ path) ∧
      ∃ child, child.path = path ∧
        Delivered nodes nodes' parent (Slot.ofSegment segment) (.node child) := by
  obtain ⟨child, hfind, hchild⟩ := exists_find? hmem
  obtain ⟨hrange, hmodify⟩ := (attach_result_eq_ok_iff hsplit hfind).mp h
  have hfilter : (nodes.filter (·.path ≠ path)).map Node.path =
      (nodes.map Node.path).filter (· ≠ path) := by
    rw [List.filter_map]
    rfl
  obtain ⟨before, n, n', after, hbefore, rfl, hpath, hfill⟩ := exists_of_modifyAt hmodify
  obtain ⟨rest, hall, hall'⟩ := all_perm_of_fill before after hfill
  refine ⟨⟨?_, hrange⟩, ?_, child, hchild, n, n', child.nodes ++ rest, hpath, hfill, ?_, hall'⟩
  · have hparent := exists_of_modifyAt_path hmodify
    rw [hfilter] at hparent
    exact List.mem_of_mem_filter hparent
  · rw [← hfilter, hbefore]
    simp [path_of_fill hfill]
  · have hsplitAll := (perm_cons_filter hdistinct hfind).flatMap_right Node.nodes
    rw [hbefore, List.flatMap_cons] at hsplitAll
    exact hsplitAll.trans ((hall.append_left child.nodes).trans List.perm_middle)

/-- An object with a declared parent and a free slot there can be attached. -/
theorem exists_attach (prefs : Preferences.Building)
    (hsplit : splitKey? path = some (parent, segment))
    (hmem : path ∈ nodes.map Node.path)
    (hplaceable : Placeable (nodes.map Node.path) parent segment)
    (hfree : (parent, Slot.ofSegment segment) ∉ (all nodes).flatMap filled) :
    ∃ nodes', (attach prefs nodes path).result = .ok nodes' := by
  obtain ⟨child, hfind, -⟩ := exists_find? hmem
  -- no object is its own parent, so the parent is still there when the object is taken away
  have hne : parent ≠ path := ne_of_splitKey? hsplit
  obtain ⟨n, hn, hpath⟩ := List.mem_map.mp hplaceable.1
  have hparent : parent ∈ (nodes.filter (·.path ≠ path)).map Node.path :=
    List.mem_map.mpr ⟨n, List.mem_filter.mpr ⟨hn, by simpa [hpath] using hne⟩, hpath⟩
  obtain ⟨nodes', hmodify⟩ := exists_modifyAt
    (.missingClassDeclaration (path ++ "." ++ classSegment) parent) hparent
    fun m hm hm' => exists_fill (.node child) (List.mem_of_mem_filter hm) (hm' ▸ hfree)
  exact ⟨nodes', (attach_result_eq_ok_iff hsplit hfind).mpr ⟨hplaceable.2, hmodify⟩⟩

end Step

section Run

variable {prefs : Preferences.Building} {nodes nodes' : List Node} {paths : List String}
  {classes : List (String × String)} {values : List (String × Slot × Value)}
  {links : List (String × Slot × String)}

/-- Whether the path of a nested object leads to a slot of its parent. -/
def Attachable (owners : List String) (path : String) : Prop :=
  ∀ parent segment, splitKey? path = some (parent, segment) → Placeable owners parent segment

theorem link?_of_splitKey? {path parent segment : String}
    (h : splitKey? path = some (parent, segment)) :
    link? path = some (parent, Slot.ofSegment segment, path) := by
  unfold link?
  rw [h]
  rfl

/-- Paths of nested objects among the paths of different objects. -/
structure Movable (owners paths : List String) : Prop where
  distinct : owners.Nodup
  nodup : paths.Nodup
  mem : ∀ path ∈ paths, path ∈ owners
  nested : ∀ path ∈ paths, isCompoundKey path = true

/-- When an object is gone, the others are still to be moved. -/
theorem Movable.tail {owners : List String} {path : String} (h : Movable owners (path :: paths)) :
    Movable (owners.filter (· ≠ path)) paths where
  distinct := h.distinct.filter _
  nodup := (List.nodup_cons.mp h.nodup).2
  mem other hother := by
    have hne : other ≠ path := fun heq => (List.nodup_cons.mp h.nodup).1 (heq ▸ hother)
    exact List.mem_filter.mpr ⟨h.mem other (List.mem_cons_of_mem _ hother), decide_eq_true hne⟩
  nested other hother := h.nested other (List.mem_cons_of_mem _ hother)

/-- The first of some paths can be moved by themselves. -/
theorem Movable.left {owners before after : List String}
    (h : Movable owners (before ++ after)) : Movable owners before where
  distinct := h.distinct
  nodup := h.nodup.of_append_left
  mem path hpath := h.mem path (List.mem_append_left _ hpath)
  nested path hpath := h.nested path (List.mem_append_left _ hpath)

/-- Attaching objects takes them off the list and adds exactly their links. -/
theorem attachAll_eq_ok (hmovable : Movable (nodes.map Node.path) paths)
    (h : (attachAll prefs nodes paths).result = .ok nodes') :
    (∀ path ∈ paths, Attachable (nodes.map Node.path) path) ∧
      nodes'.map Node.path = (nodes.map Node.path).filter (· ∉ paths) ∧
      ∀ values links, Holds nodes classes values links →
        Holds nodes' classes values (paths.filterMap link? ++ links) := by
  induction paths generalizing nodes with
  | nil =>
      cases h
      exact ⟨by simp, by simp, fun _ _ => id⟩
  | cons path rest ih =>
      rw [attachAll, Log.Traced.result_bind] at h
      obtain ⟨middle, hattach, hrest⟩ := Outcome.bind_eq_ok_iff.mp h
      obtain ⟨parent, segment, hsplit⟩ := exists_splitKey? (hmovable.nested path List.mem_cons_self)
      obtain ⟨hplaceable, hmiddle, child, rfl, hdelivered⟩ := delivered_of_attach
        hmovable.distinct hsplit (hmovable.mem path List.mem_cons_self) hattach
      obtain ⟨hattachable, hlast, hholds⟩ := ih (hmiddle ▸ hmovable.tail) hrest
      refine ⟨List.forall_mem_cons.mpr ⟨?_, ?_⟩, ?_, fun values links hnodes => ?_⟩
      · intro parent' segment' hsplit'
        cases hsplit.symm.trans hsplit'
        exact hplaceable
      · intro path hpath parent' segment' hsplit'
        obtain ⟨hparent, hrange⟩ := hattachable path hpath parent' segment' hsplit'
        rw [hmiddle] at hparent
        exact ⟨List.mem_of_mem_filter hparent, hrange⟩
      · rw [hlast, hmiddle, List.filter_filter]
        refine List.filter_congr fun path _ => ?_
        simp [and_comm]
      · rw [List.filterMap_cons_some (link?_of_splitKey? hsplit)]
        exact (hholds _ _ (hnodes.deliver hdelivered)).of_perm (List.Perm.refl _) List.perm_middle

/-- From the deepest to the highest, every object whose parent is declared and has its slot free can
be attached. -/
theorem exists_attachAll (prefs : Preferences.Building) (hholds : Holds nodes classes values links)
    (hmovable : Movable (nodes.map Node.path) paths)
    (hdeepest : paths.Pairwise fun a b => nesting b ≤ nesting a)
    (hattachable : ∀ path ∈ paths, Attachable (nodes.map Node.path) path)
    (hfree : (values.map spot ++ (paths.filterMap link? ++ links).map spot).Nodup) :
    ∃ nodes', (attachAll prefs nodes paths).result = .ok nodes' := by
  induction paths generalizing nodes links with
  | nil => exact ⟨nodes, rfl⟩
  | cons path rest ih =>
      obtain ⟨parent, segment, hsplit⟩ := exists_splitKey? (hmovable.nested path List.mem_cons_self)
      have hmem := hmovable.mem path List.mem_cons_self
      have hplaceable := hattachable path List.mem_cons_self parent segment hsplit
      rw [List.filterMap_cons_some (link?_of_splitKey? hsplit)] at hfree
      -- the slot of this object moves to the front, since it is the next to be filled
      have hmoved : ((parent, Slot.ofSegment segment) :: (values.map spot ++
          (rest.filterMap link? ++ links).map spot)).Nodup :=
        List.perm_middle.nodup_iff.mp hfree
      have hslot : (parent, Slot.ofSegment segment) ∉ (all nodes).flatMap filled := by
        rw [hholds.filled_perm.mem_iff]
        intro hfilled
        refine (List.nodup_cons.mp hmoved).1 ?_
        rw [List.map_append, List.mem_append, List.mem_append]
        exact (List.mem_append.mp hfilled).imp_right Or.inr
      obtain ⟨middle, hattach⟩ := exists_attach prefs hsplit hmem hplaceable hslot
      obtain ⟨-, hmiddle, child, rfl, hdelivered⟩ :=
        delivered_of_attach hmovable.distinct hsplit hmem hattach
      obtain ⟨hdeeper, hrestDeepest⟩ := List.pairwise_cons.mp hdeepest
      -- what is attached later is no deeper, so its parent is not the object attached now
      have hrestAttachable : ∀ path ∈ rest, Attachable (middle.map Node.path) path := by
        intro path hpath parent' segment' hsplit'
        obtain ⟨hparent, hrange⟩ :=
          hattachable path (List.mem_cons_of_mem _ hpath) parent' segment' hsplit'
        rw [hmiddle]
        refine ⟨List.mem_filter.mpr ⟨hparent, decide_eq_true fun heq => ?_⟩, hrange⟩
        have hhigher := hdeeper path hpath
        rw [nesting_of_splitKey? hsplit', heq] at hhigher
        omega
      obtain ⟨nodes', hrest⟩ := ih (hholds.deliver hdelivered) (hmiddle ▸ hmovable.tail)
        hrestDeepest hrestAttachable
        ((List.Perm.nodup_iff ((List.perm_middle.map spot).append_left _)).mpr
          (List.perm_middle.nodup_iff.mpr hmoved))
      refine ⟨nodes', ?_⟩
      rw [attachAll, Log.Traced.result_bind, Outcome.bind_eq_ok_iff]
      exact ⟨middle, hattach, hrest⟩

end Run

section Nested

variable {nodes : List Node}

/-- The nested paths are the compound ones among all paths. -/
theorem nestedPaths_perm (nodes : List Node) :
    (nestedPaths nodes).Perm ((nodes.map Node.path).filter isCompoundKey) :=
  List.mergeSort_perm _ _

/-- Where no path comes twice, the nested objects can be moved one after the other. -/
theorem movable_nestedPaths (h : (nodes.map Node.path).Nodup) :
    Movable (nodes.map Node.path) (nestedPaths nodes) where
  distinct := h
  nodup := (nestedPaths_perm nodes).nodup_iff.mpr (h.filter _)
  mem _ hpath := List.mem_of_mem_filter ((nestedPaths_perm nodes).mem_iff.mp hpath)
  nested _ hpath := (List.mem_filter.mp ((nestedPaths_perm nodes).mem_iff.mp hpath)).2

/-- Nested objects are attached from the deepest to the highest. -/
theorem nestedPaths_deepest (nodes : List Node) :
    (nestedPaths nodes).Pairwise fun a b => nesting b ≤ nesting a := by
  have hsorted : (nestedPaths nodes).Pairwise
      fun a b => decide (nesting b ≤ nesting a) = true := by
    refine List.pairwise_mergeSort (fun a b c hab hbc => ?_) (fun a b => ?_) _
    · rw [decide_eq_true_eq] at *
      exact hbc.trans hab
    · simpa using Nat.le_total (nesting b) (nesting a)
  exact hsorted.imp fun h => of_decide_eq_true h

end Nested

end Forest

end Hyperparams

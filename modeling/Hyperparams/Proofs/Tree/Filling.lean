import Mathlib.Data.List.Perm.Basic
import Mathlib.Data.List.Pairwise
import Hyperparams.Proofs.Tree.Nodes
import Hyperparams.Tree.Forest

/-!
# Filling slots

One delivery brings one item into one slot of one node. What a list of trees holds is the classes,
plain values and links of all its nodes, up to order; a delivery adds its item to them and keeps
everything else.
-/

namespace Hyperparams

namespace Node

variable {n n' : Node} {slot : Slot} {item : Item}

/-- A slot that is empty can be filled, and nothing else about the node changes. -/
theorem fill_eq_ok_iff :
    n.fill slot item = .ok n' ↔
      slot ∉ n.slots.map Prod.fst ∧
        n' = mk n.path n.classRef (Sorted.insert slot item n.slots) := by
  unfold fill
  rw [← Sorted.contains_eq_false_iff]
  cases Sorted.contains slot n.slots with
  | true => simp
  | false => simpa using eq_comm

/-- A slot that is filled cannot be filled again. -/
theorem fill_eq_error_iff {e : TreeError} :
    n.fill slot item = .error e ↔
      slot ∈ n.slots.map Prod.fst ∧ e = .duplicateArgument n.path slot.text := by
  unfold fill
  cases hcontains : Sorted.contains slot n.slots with
  | true =>
      simp only [if_true, Except.error.injEq, Sorted.contains_eq_true_iff.mp hcontains, true_and,
        eq_comm]
  | false => simp [Sorted.contains_eq_false_iff.mp hcontains]

theorem path_of_fill (h : n.fill slot item = .ok n') : n'.path = n.path := by
  rw [(fill_eq_ok_iff.mp h).2, path]

theorem classRef_of_fill (h : n.fill slot item = .ok n') : n'.classRef = n.classRef := by
  rw [(fill_eq_ok_iff.mp h).2, classRef]

/-- Filling a slot adds one entry to the slots. -/
theorem slots_perm_of_fill (h : n.fill slot item = .ok n') :
    n'.slots.Perm ((slot, item) :: n.slots) := by
  obtain ⟨hnew, rfl⟩ := fill_eq_ok_iff.mp h
  exact Sorted.insert_perm hnew

/-- Filling a slot adds the plain value of the item, if it is one. -/
theorem values_perm_of_fill (h : n.fill slot item = .ok n') :
    n'.values.Perm (item.values n.path slot ++ n.values) := by
  unfold values
  rw [path_of_fill h]
  exact (slots_perm_of_fill h).flatMap_right _

/-- Filling a slot adds the link to the item, if it is a node. -/
theorem links_perm_of_fill (h : n.fill slot item = .ok n') :
    n'.links.Perm (item.links n.path slot ++ n.links) := by
  unfold links
  rw [path_of_fill h]
  exact (slots_perm_of_fill h).flatMap_right _

/-- Below the filled node come the nodes of the item. -/
theorem nodes_perm_of_fill (h : n.fill slot item = .ok n') :
    n'.nodes.Perm (n' :: (item.nodes ++ n.children.flatMap nodes)) := by
  rw [nodes_eq]
  refine List.Perm.cons _ ?_
  cases item with
  | value v => exact ((slots_perm_of_fill h).filterMap _).flatMap_right nodes
  | node child => exact ((slots_perm_of_fill h).filterMap _).flatMap_right nodes

/-- Filling keeps slots ascending. -/
theorem ascending_of_fill (h : n.fill slot item = .ok n') (hslots : Sorted.Ascending n.slots) :
    Sorted.Ascending n'.slots := by
  obtain ⟨-, rfl⟩ := fill_eq_ok_iff.mp h
  exact hslots.insert

end Node

namespace Forest

open Node

variable {trees trees' : List Node} {path : String} {slot : Slot} {item : Item}

/-- Between two lists of trees, an item came into a slot of one node with the path; all other nodes
are the same. -/
def Delivered (trees trees' : List Node) (path : String) (slot : Slot) (item : Item) : Prop :=
  ∃ n n' rest, n.path = path ∧ n.fill slot item = .ok n' ∧
    (all trees).Perm (n :: rest) ∧ (all trees').Perm (n' :: rest)

/-- What is read off each node alone changes by what is read off the item. -/
theorem Delivered.flatMap_perm {β : Type} (h : Delivered trees trees' path slot item)
    (read : Node → List β) (added : List β)
    (hread : ∀ n n', n.path = path → n.fill slot item = .ok n' →
      (read n').Perm (added ++ read n)) :
    ((all trees').flatMap read).Perm (added ++ (all trees).flatMap read) := by
  obtain ⟨n, n', rest, hpath, hfill, hbefore, hafter⟩ := h
  have hafter' := hafter.flatMap_right read
  have hbefore' := hbefore.flatMap_right read
  rw [List.flatMap_cons] at hafter' hbefore'
  refine hafter'.trans (((hread n n' hpath hfill).append_right _).trans ?_)
  rw [List.append_assoc]
  exact hbefore'.symm.append_left added

/-- The classes, plain values and links of all nodes of some trees, up to order. In each node the
slots ascend. -/
structure Holds (trees : List Node) (classes : List (String × String))
    (values : List (String × Slot × Value)) (links : List (String × Slot × String)) : Prop where
  classes_perm : ((all trees).map fun n => (n.path, n.classRef)).Perm classes
  values_perm : ((all trees).flatMap Node.values).Perm values
  links_perm : ((all trees).flatMap Node.links).Perm links
  ascending : ∀ n ∈ all trees, Sorted.Ascending n.slots

section Holding

variable {classes : List (String × String)} {values : List (String × Slot × Value)}
  {links : List (String × Slot × String)}

/-- A delivery adds the item to what is held, and nothing else. -/
theorem Holds.deliver (h : Holds trees classes values links)
    (hdelivered : Delivered trees trees' path slot item) :
    Holds trees' classes (item.values path slot ++ values) (item.links path slot ++ links) where
  classes_perm := by
    have hclasses := hdelivered.flatMap_perm (fun n => [(n.path, n.classRef)]) []
      (fun n n' _ hfill => by rw [path_of_fill hfill, classRef_of_fill hfill]; exact List.Perm.refl _)
    rw [← List.map_eq_flatMap, ← List.map_eq_flatMap] at hclasses
    exact hclasses.trans h.classes_perm
  values_perm := by
    refine (hdelivered.flatMap_perm _ _ fun n n' hpath hfill => ?_).trans
      (h.values_perm.append_left _)
    rw [← hpath]
    exact values_perm_of_fill hfill
  links_perm := by
    refine (hdelivered.flatMap_perm _ _ fun n n' hpath hfill => ?_).trans
      (h.links_perm.append_left _)
    rw [← hpath]
    exact links_perm_of_fill hfill
  ascending := by
    obtain ⟨n, n', rest, -, hfill, hbefore, hafter⟩ := hdelivered
    intro m hm
    rcases List.mem_cons.mp (hafter.mem_iff.mp hm) with rfl | hrest
    · exact ascending_of_fill hfill (h.ascending n (hbefore.mem_iff.mpr List.mem_cons_self))
    · exact h.ascending m (hbefore.mem_iff.mpr (List.mem_cons_of_mem n hrest))

/-- What is held is only determined up to order. -/
theorem Holds.of_perm (h : Holds trees classes values links)
    {values' : List (String × Slot × Value)} {links' : List (String × Slot × String)}
    (hvalues : values.Perm values') (hlinks : links.Perm links') :
    Holds trees classes values' links' :=
  ⟨h.classes_perm, h.values_perm.trans hvalues, h.links_perm.trans hlinks, h.ascending⟩

theorem Holds.paths_perm (h : Holds trees classes values links) :
    ((all trees).map Node.path).Perm (classes.map Prod.fst) := by
  simpa [Function.comp_def] using h.classes_perm.map Prod.fst

/-- The filled slots are those of the values and those of the links. -/
theorem Holds.filled_perm (h : Holds trees classes values links) :
    ((all trees).flatMap filled).Perm (values.map spot ++ links.map spot) := by
  -- node by node the filled slots divide into values and links, which gather in two halves
  have hsplit : ((all trees).flatMap filled).Perm
      (((all trees).flatMap Node.values).map spot ++
        ((all trees).flatMap Node.links).map spot) := by
    induction all trees with
    | nil => exact List.Perm.refl _
    | cons n rest ih =>
        simp only [List.flatMap_cons, List.map_append]
        refine ((Node.filled_perm n).append ih).trans ?_
        simp only [List.append_assoc]
        exact (List.perm_append_comm_assoc _ _ _).append_left _
  exact hsplit.trans ((h.values_perm.map _).append (h.links_perm.map _))

/-- Where no two nodes share a path, no slot is filled twice. -/
theorem Holds.filled_nodup (h : Holds trees classes values links)
    (hdistinct : (classes.map Prod.fst).Nodup) :
    (values.map spot ++ links.map spot).Nodup := by
  rw [← h.filled_perm.nodup_iff]
  have hpaths := h.paths_perm.nodup_iff.mpr hdistinct
  rw [List.nodup_flatMap]
  constructor
  · intro n hn
    have hslots := (h.ascending n hn).nodup
    refine List.Nodup.of_map Prod.snd ?_
    simpa [filled, Function.comp_def] using hslots
  · rw [List.Nodup, List.pairwise_map] at hpaths
    refine hpaths.imp fun {n m} hne => ?_
    intro entry hn hm
    obtain ⟨_, -, rfl⟩ := List.mem_map.mp hn
    obtain ⟨_, -, heq⟩ := List.mem_map.mp hm
    exact hne (congrArg Prod.fst heq).symm

end Holding

end Forest

end Hyperparams

import Hyperparams.Proofs.Outcomes
import Hyperparams.Proofs.Tree.Entries
import Hyperparams.Proofs.Tree.Filling

/-!
# Placing plain values

All values find their slots exactly when each owner is declared, no position is too large and no
slot is filled twice. The order of the values decides nothing but the error.
-/

namespace Hyperparams

namespace Forest

open Node

section Modify

variable {nodes nodes' before after : List Node} {n n' : Node} {path : String} {slot : Slot}
  {item : Item} {change : Node → Except TreeError Node} {missing : TreeError}

/-- A change at a path happens at one node and leaves the others in place. -/
theorem exists_of_modifyAt (h : modifyAt path change missing nodes = .ok nodes') :
    ∃ before n n' after, nodes = before ++ n :: after ∧ nodes' = before ++ n' :: after ∧
      n.path = path ∧ change n = .ok n' := by
  induction nodes generalizing nodes' with
  | nil => cases h
  | cons m rest ih =>
      unfold modifyAt at h
      split at h
      next hpath =>
        obtain ⟨m', hm', rfl⟩ := Outcome.map_eq_ok_iff.mp h
        exact ⟨[], m, m', rest, rfl, rfl, hpath, hm'⟩
      next =>
        obtain ⟨rest', hrest', rfl⟩ := Outcome.map_eq_ok_iff.mp h
        obtain ⟨before, n, n', after, rfl, rfl, hpath, hchange⟩ := ih hrest'
        exact ⟨m :: before, n, n', after, rfl, rfl, hpath, hchange⟩

/-- A change at a path succeeds if there is a node and the change suits every node there. -/
theorem exists_modifyAt (missing : TreeError) (hmem : path ∈ nodes.map Node.path)
    (hchange : ∀ n ∈ nodes, n.path = path → ∃ n', change n = .ok n') :
    ∃ nodes', modifyAt path change missing nodes = .ok nodes' := by
  induction nodes with
  | nil => cases hmem
  | cons m rest ih =>
      unfold modifyAt
      split
      next hpath =>
        obtain ⟨m', hm'⟩ := hchange m List.mem_cons_self hpath
        exact ⟨m' :: rest, Outcome.map_eq_ok_iff.mpr ⟨m', hm', rfl⟩⟩
      next hpath =>
        have hrest : path ∈ rest.map Node.path :=
          (List.mem_cons.mp hmem).resolve_left fun heq => hpath heq.symm
        obtain ⟨rest', hrest'⟩ := ih hrest fun n hn => hchange n (List.mem_cons_of_mem m hn)
        exact ⟨m :: rest', Outcome.map_eq_ok_iff.mpr ⟨rest', hrest', rfl⟩⟩

/-- A change at a path fails if there is no node, or if the node there cannot be changed. -/
theorem modifyAt_eq_error {e : TreeError} (h : modifyAt path change missing nodes = .error e) :
    (path ∉ nodes.map Node.path ∧ e = missing) ∨
      ∃ n ∈ nodes, n.path = path ∧ change n = .error e := by
  induction nodes with
  | nil =>
      cases h
      exact Or.inl ⟨List.not_mem_nil, rfl⟩
  | cons m rest ih =>
      unfold modifyAt at h
      split at h
      next hpath =>
        exact Or.inr ⟨m, List.mem_cons_self, hpath, Outcome.map_eq_error_iff.mp h⟩
      next hpath =>
        rcases ih (Outcome.map_eq_error_iff.mp h) with ⟨hnone, rfl⟩ | ⟨n, hn, hn'⟩
        · exact Or.inl ⟨List.not_mem_cons_of_ne_of_not_mem (Ne.symm hpath) hnone, rfl⟩
        · exact Or.inr ⟨n, List.mem_cons_of_mem m hn, hn'⟩

/-- Among all nodes, filling a slot changes one node and adds the nodes of the item. -/
theorem all_perm_of_fill (before after : List Node) (hfill : n.fill slot item = .ok n') :
    ∃ rest, (all (before ++ n :: after)).Perm (n :: rest) ∧
      (all (before ++ n' :: after)).Perm (n' :: (item.nodes ++ rest)) := by
  refine ⟨n.children.flatMap nodes ++ (all before ++ all after), ?_, ?_⟩
  · have hall : all (before ++ n :: after) = all before ++ (n.nodes ++ all after) := by simp [all]
    rw [hall]
    refine (List.perm_append_comm_assoc _ _ _).trans ?_
    rw [nodes_eq]
    exact List.Perm.refl _
  · have hall : all (before ++ n' :: after) = all before ++ (n'.nodes ++ all after) := by simp [all]
    rw [hall]
    refine (List.perm_append_comm_assoc _ _ _).trans ?_
    refine ((nodes_perm_of_fill hfill).append_right _).trans ?_
    simp only [List.cons_append, List.append_assoc]
    exact List.Perm.refl _

/-- A free slot can be filled. -/
theorem exists_fill (item : Item) (hn : n ∈ nodes)
    (hfree : (n.path, slot) ∉ (all nodes).flatMap filled) :
    ∃ n', n.fill slot item = .ok n' := by
  refine ⟨_, fill_eq_ok_iff.mpr ⟨fun hslot => hfree ?_, rfl⟩⟩
  obtain ⟨entry, hentry, rfl⟩ := List.mem_map.mp hslot
  refine List.mem_flatMap.mpr ⟨n, mem_all_of_mem hn, ?_⟩
  exact List.mem_map.mpr ⟨entry, hentry, rfl⟩

end Modify

section Place

variable {nodes nodes' : List Node} {key owner segment : String} {value : Value}

/-- An entry that assigns nothing leaves the objects as they are. -/
theorem place_of_not_assigns (h : assignment? (key, value) = none) :
    place nodes key value = .ok nodes := by
  unfold place
  cases hsplit : splitKey? key with
  | none => rfl
  | some parts =>
      obtain ⟨owner, segment⟩ := parts
      have hclass : segment = classSegment := by
        by_contra hne
        have hassigns : assignment? (key, value) = some (owner, segment, value) :=
          assignment?_eq_some_iff.mpr ⟨hsplit, hne, rfl⟩
        rw [hassigns] at h
        cases h
      exact if_pos hclass

theorem place_eq (h : assignment? (key, value) = some (owner, segment, value)) :
    place nodes key value =
      modifyAt owner (fun n => do n.fill (← Slot.parse segment key) (.value value))
        (.missingClassDeclaration key owner) nodes := by
  obtain ⟨hsplit, hclass, -⟩ := assignment?_eq_some_iff.mp h
  unfold place
  rw [hsplit]
  exact if_neg hclass

/-- Placing a value delivers it to its owner. -/
theorem delivered_of_place (hassigns : assignment? (key, value) = some (owner, segment, value))
    (h : place nodes key value = .ok nodes') :
    Slot.InRange segment ∧ owner ∈ nodes.map Node.path ∧
      nodes'.map Node.path = nodes.map Node.path ∧
      Delivered nodes nodes' owner (Slot.ofSegment segment) (.value value) := by
  rw [place_eq hassigns] at h
  obtain ⟨before, n, n', after, rfl, rfl, hpath, hchange⟩ := exists_of_modifyAt h
  obtain ⟨slot, hslot, hfill⟩ := Outcome.bind_eq_ok_iff.mp hchange
  obtain ⟨hrange, rfl⟩ := Slot.parse_eq_ok_iff.mp hslot
  obtain ⟨rest, hbefore, hafter⟩ := all_perm_of_fill before after hfill
  exact ⟨hrange, by simp [← hpath], by simp [path_of_fill hfill], n, n', rest, hpath, hfill,
    hbefore, hafter⟩

/-- A value in range finds a free slot of a declared owner. -/
theorem exists_place (hassigns : assignment? (key, value) = some (owner, segment, value))
    (hrange : Slot.InRange segment) (howner : owner ∈ nodes.map Node.path)
    (hfree : (owner, Slot.ofSegment segment) ∉ (all nodes).flatMap filled) :
    ∃ nodes', place nodes key value = .ok nodes' := by
  rw [place_eq hassigns]
  refine exists_modifyAt _ howner fun n hn hpath => ?_
  obtain ⟨n', hfill⟩ := exists_fill (.value value) hn (hpath ▸ hfree)
  exact ⟨n', Outcome.bind_eq_ok_iff.mpr ⟨_, Slot.parse_eq_ok_iff.mpr ⟨hrange, rfl⟩, hfill⟩⟩

end Place

section Run

variable {entries : List (String × Value)} {nodes nodes' : List Node}
  {classes : List (String × String)} {values : List (String × Slot × Value)}
  {links : List (String × Slot × String)}

theorem assignments_cons_none {entry : String × Value} (h : assignment? entry = none) :
    assignments (entry :: entries) = assignments entries :=
  List.filterMap_cons_none h

theorem assignments_cons_some {entry : String × Value} {assignment : String × String × Value}
    (h : assignment? entry = some assignment) :
    assignments (entry :: entries) = assignment :: assignments entries :=
  List.filterMap_cons_some h

theorem assigned_cons_none {entry : String × Value} (h : assignment? entry = none) :
    assigned (entry :: entries) = assigned entries := by
  unfold assigned
  rw [assignments_cons_none h]

theorem assigned_cons_some {entry : String × Value} {owner segment : String} {value : Value}
    (h : assignment? entry = some (owner, segment, value)) :
    assigned (entry :: entries) = (owner, Slot.ofSegment segment, value) :: assigned entries := by
  unfold assigned
  rw [assignments_cons_some h]
  rfl

/-- An assignment carries the value of its entry. -/
theorem assignment?_value {entry : String × Value} {assignment : String × String × Value}
    (h : assignment? entry = some assignment) :
    assignment? (entry.1, entry.2) = some (assignment.1, assignment.2.1, entry.2) := by
  obtain ⟨owner, segment, value⟩ := assignment
  obtain ⟨-, -, rfl⟩ := assignment?_eq_some_iff.mp h
  exact h

/-- Placing all values keeps the objects and adds exactly the assigned values. -/
theorem placeAll_eq_ok (h : placeAll nodes entries = .ok nodes') :
    (∀ assignment ∈ assignments entries,
      Placeable (nodes.map Node.path) assignment.1 assignment.2.1) ∧
      nodes'.map Node.path = nodes.map Node.path ∧
      ∀ values links, Holds nodes classes values links →
        Holds nodes' classes (assigned entries ++ values) links := by
  unfold placeAll at h
  induction entries generalizing nodes with
  | nil =>
      cases h
      exact ⟨by simp [assignments], rfl, fun _ _ => id⟩
  | cons entry rest ih =>
      rw [List.foldlM_cons] at h
      obtain ⟨middle, hplace, hrest⟩ := Outcome.bind_eq_ok_iff.mp h
      cases hassigns : assignment? entry with
      | none =>
          rw [place_of_not_assigns hassigns] at hplace
          cases hplace
          rw [assignments_cons_none hassigns, assigned_cons_none hassigns]
          exact ih hrest
      | some assignment =>
          obtain ⟨hrange, howner, hpaths, hdelivered⟩ :=
            delivered_of_place (assignment?_value hassigns) hplace
          obtain ⟨hplaceable, hpaths', hholds⟩ := ih hrest
          rw [hpaths] at hplaceable hpaths'
          obtain ⟨owner, segment, value⟩ := assignment
          obtain ⟨-, -, rfl⟩ := assignment?_eq_some_iff.mp hassigns
          rw [assignments_cons_some hassigns, assigned_cons_some hassigns]
          refine ⟨List.forall_mem_cons.mpr ⟨⟨howner, hrange⟩, hplaceable⟩, hpaths',
            fun values links hnodes => ?_⟩
          exact (hholds _ _ (hnodes.deliver hdelivered)).of_perm List.perm_middle
            (List.Perm.refl _)

/-- Where every assignment leads to a slot and no slot is filled twice, all values are placed. -/
theorem exists_placeAll (hholds : Holds nodes classes values links)
    (hplaceable : ∀ assignment ∈ assignments entries,
      Placeable (nodes.map Node.path) assignment.1 assignment.2.1)
    (hdistinct : ((assigned entries ++ values).map spot ++ links.map spot).Nodup) :
    ∃ nodes', placeAll nodes entries = .ok nodes' := by
  unfold placeAll
  induction entries generalizing nodes values with
  | nil => exact ⟨nodes, rfl⟩
  | cons entry rest ih =>
      cases hassigns : assignment? entry with
      | none =>
          rw [assignments_cons_none hassigns] at hplaceable
          rw [assigned_cons_none hassigns] at hdistinct
          obtain ⟨nodes', hrest⟩ := ih hholds hplaceable hdistinct
          refine ⟨nodes', ?_⟩
          rw [List.foldlM_cons, Outcome.bind_eq_ok_iff]
          exact ⟨nodes, place_of_not_assigns hassigns, hrest⟩
      | some assignment =>
          have hvalue := assignment?_value hassigns
          obtain ⟨owner, segment, value⟩ := assignment
          obtain ⟨-, -, rfl⟩ := assignment?_eq_some_iff.mp hassigns
          rw [assignments_cons_some hassigns] at hplaceable
          rw [assigned_cons_some hassigns] at hdistinct
          obtain ⟨⟨howner, hrange⟩, hrestPlaceable⟩ := List.forall_mem_cons.mp hplaceable
          have hfree : (owner, Slot.ofSegment segment) ∉ (all nodes).flatMap filled := by
            rw [hholds.filled_perm.mem_iff]
            intro hmem
            refine (List.nodup_cons.mp hdistinct).1 ?_
            change _ ∈ (assigned rest ++ values).map spot ++ links.map spot
            rw [List.map_append, List.append_assoc]
            exact List.mem_append_right _ hmem
          obtain ⟨middle, hplace⟩ := exists_place hvalue hrange howner hfree
          obtain ⟨-, -, hpaths, hdelivered⟩ := delivered_of_place hvalue hplace
          -- the value placed now counts as held when the rest is placed
          have hmoved : ((assigned rest ++
              (owner, Slot.ofSegment segment, entry.2) :: values).map spot ++
                links.map spot).Nodup := by
            refine (List.Perm.nodup_iff ?_).mp hdistinct
            exact (List.perm_middle.symm.map spot).append_right _
          obtain ⟨nodes', hrest⟩ := ih (hholds.deliver hdelivered)
            (hpaths ▸ hrestPlaceable) hmoved
          refine ⟨nodes', ?_⟩
          rw [List.foldlM_cons, Outcome.bind_eq_ok_iff]
          exact ⟨middle, hplace, hrest⟩

end Run

end Forest

end Hyperparams

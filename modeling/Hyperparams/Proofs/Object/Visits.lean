import Mathlib.Data.List.Perm.Basic
import Hyperparams.Proofs.Tree.Nodes

/-!
# The order of construction

The nodes of a tree, each after all nodes that it holds. Those in positions come before those under
names, positions ascend and names follow each other in their order, which is the order of the slots.
-/

namespace Hyperparams

/-- A node of a tree, with the nodes that it is nested in, the nearest first. -/
structure Visit where
  node : Node
  above : List Node

namespace Node

mutual

/-- The nodes of a tree that is nested in some nodes, each after the nodes below its positions and
the nodes below its names. -/
def visits (above : List Node) : Node → List Visit
  | mk path classRef slots =>
    visitsIn true (mk path classRef slots :: above) slots ++
      visitsIn false (mk path classRef slots :: above) slots ++ [⟨mk path classRef slots, above⟩]

def visitsIn (positions : Bool) (above : List Node) : List (Slot × Item) → List Visit
  | [] => []
  | (_, .value _) :: rest => visitsIn positions above rest
  | (slot, .node child) :: rest =>
    if slot.index?.isSome = positions then child.visits above ++ visitsIn positions above rest
    else visitsIn positions above rest

end

def visitsBelow (above : List Node) (slots : List (Slot × Item)) : List Visit :=
  slots.flatMap fun (_, item) => match item with
    | .value _ => []
    | .node child => child.visits above

variable {above : List Node} {slots : List (Slot × Item)}

theorem visitsIn_true_of_named (h : ∀ entry ∈ slots, ∃ name, entry.1 = Slot.named name) :
    visitsIn true above slots = [] := by
  induction slots with
  | nil => rfl
  | cons entry rest ih =>
      obtain ⟨slot, item⟩ := entry
      obtain ⟨⟨name, hname⟩, hrest⟩ := List.forall_mem_cons.mp h
      cases hname
      cases item with
      | value v => exact ih hrest
      | node child => exact ih hrest

/-- Where slots ascend, positions and then names is slot by slot. -/
theorem visitsIn_append (h : Sorted.Ascending slots) :
    visitsIn true above slots ++ visitsIn false above slots = visitsBelow above slots := by
  induction slots with
  | nil => rfl
  | cons entry rest ih =>
      obtain ⟨slot, item⟩ := entry
      obtain ⟨hfirst, hrest⟩ := List.pairwise_cons.mp h
      have hbelow := ih hrest
      cases item with
      | value v => exact hbelow
      | node child =>
          -- the first child comes first whichever kind of slot it is in
          have hcons : visitsBelow above ((slot, .node child) :: rest) =
              child.visits above ++ visitsBelow above rest := rfl
          rw [hcons, ← hbelow]
          cases slot with
          | positional index =>
              exact List.append_assoc _ _ _
          | named name =>
              -- only names can follow a name, so nothing is left to visit below positions
              have hnamed : ∀ entry ∈ rest, ∃ name, entry.1 = Slot.named name := by
                intro entry hentry
                have hafter := hfirst entry hentry
                obtain ⟨slot', item'⟩ := entry
                cases slot' with
                | positional index => exact absurd hafter (Slot.not_named_lt_positional name index)
                | named name' => exact ⟨name', rfl⟩
              have htrue : visitsIn true above ((Slot.named name, .node child) :: rest) = [] :=
                visitsIn_true_of_named (List.forall_mem_cons.mpr ⟨⟨name, rfl⟩, hnamed⟩)
              rw [htrue, visitsIn_true_of_named hnamed]
              rfl

/-- A node is visited after all nodes below it. -/
theorem visits_eq {n : Node} (h : Sorted.Ascending n.slots) :
    n.visits above = visitsBelow (n :: above) n.slots ++ [⟨n, above⟩] := by
  rw [← visitsIn_append h]
  cases n
  rfl

theorem visitsBelow_eq (above : List Node) (n : Node) :
    visitsBelow above n.slots = n.children.flatMap (visits above) := by
  unfold visitsBelow children
  induction n.slots with
  | nil => rfl
  | cons entry rest ih =>
      obtain ⟨slot, item⟩ := entry
      cases item with
      | value v => exact ih
      | node child =>
          rw [List.flatMap_cons, ih]
          rfl

/-- Every node of a tree is visited once. -/
theorem visits_perm (n : Node) (h : n.Ordered) (above : List Node) :
    ((n.visits above).map Visit.node).Perm n.nodes := by
  induction n using Node.induction generalizing above with
  | h n ih =>
      rw [visits_eq (h n (self_mem_nodes n)), visitsBelow_eq, nodes_eq, List.map_append,
        List.map_flatMap]
      refine (List.perm_append_singleton _ _).trans (List.Perm.cons _ ?_)
      exact List.Perm.flatMap_left _ fun child hchild => ih child hchild (h.child hchild) _

end Node

def Visit.below (v : Visit) : List Visit :=
  Node.visitsBelow (v.node :: v.above) v.node.slots

end Hyperparams

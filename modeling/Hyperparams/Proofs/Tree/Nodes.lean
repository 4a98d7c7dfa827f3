import Hyperparams.Proofs.Tables
import Hyperparams.Tree.Node

/-!
# The nodes of a tree

A tree is read as the list of all its nodes, and a node as what its slots hold: plain values, and
links to nested nodes. Filling a slot adds one entry to one node.
-/

namespace Hyperparams

namespace Node

mutual

/-- A node and all nodes below it. -/
def nodes : Node → List Node
  | mk path classRef slots => mk path classRef slots :: nodesSlots slots

def nodesSlots : List (Slot × Item) → List Node
  | [] => []
  | (_, .value _) :: rest => nodesSlots rest
  | (_, .node child) :: rest => child.nodes ++ nodesSlots rest

end

end Node

namespace Item

def nodes : Item → List Node
  | value _ => []
  | node n => n.nodes

/-- The plain value in an item, with the path and the slot where the item is. -/
def values (path : String) (slot : Slot) : Item → List (String × Slot × Value)
  | value v => [(path, slot, v)]
  | node _ => []

def links (path : String) (slot : Slot) : Item → List (String × Slot × String)
  | value _ => []
  | node n => [(path, slot, n.path)]

end Item

namespace Node

def values (n : Node) : List (String × Slot × Value) :=
  n.slots.flatMap fun entry => entry.2.values n.path entry.1

def links (n : Node) : List (String × Slot × String) :=
  n.slots.flatMap fun entry => entry.2.links n.path entry.1

def filled (n : Node) : List (String × Slot) :=
  n.slots.map fun entry => (n.path, entry.1)

def spot {α : Type} (entry : String × Slot × α) : String × Slot :=
  (entry.1, entry.2.1)

def all (trees : List Node) : List Node :=
  trees.flatMap nodes

/-- The slots of a node and of all nodes below it ascend strictly. -/
def Ordered (n : Node) : Prop :=
  ∀ m ∈ n.nodes, Sorted.Ascending m.slots

instance (n : Node) : Decidable n.Ordered :=
  inferInstanceAs (Decidable (∀ m ∈ n.nodes, Sorted.Ascending m.slots))

theorem mem_children {n child : Node} :
    child ∈ n.children ↔ ∃ slot, (slot, Item.node child) ∈ n.slots := by
  unfold children
  rw [List.mem_filterMap]
  constructor
  · rintro ⟨⟨slot, item⟩, hmem, hitem⟩
    cases item with
    | value v => cases hitem
    | node m =>
        cases hitem
        exact ⟨slot, hmem⟩
  · rintro ⟨slot, hmem⟩
    exact ⟨(slot, .node child), hmem, rfl⟩

theorem mem_values {n : Node} {path : String} {slot : Slot} {v : Value} :
    (path, slot, v) ∈ n.values ↔ path = n.path ∧ (slot, Item.value v) ∈ n.slots := by
  unfold values
  rw [List.mem_flatMap]
  constructor
  · rintro ⟨⟨slot', item⟩, hmem, hitem⟩
    cases item with
    | value v' =>
        cases List.mem_singleton.mp hitem
        exact ⟨rfl, hmem⟩
    | node m => cases hitem
  · rintro ⟨rfl, hmem⟩
    exact ⟨(slot, .value v), hmem, List.mem_singleton.mpr rfl⟩

theorem mem_links {n : Node} {path childPath : String} {slot : Slot} :
    (path, slot, childPath) ∈ n.links ↔
      path = n.path ∧ ∃ child, child.path = childPath ∧ (slot, Item.node child) ∈ n.slots := by
  unfold links
  rw [List.mem_flatMap]
  constructor
  · rintro ⟨⟨slot', item⟩, hmem, hitem⟩
    cases item with
    | value v' => cases hitem
    | node m =>
        cases List.mem_singleton.mp hitem
        exact ⟨rfl, m, rfl, hmem⟩
  · rintro ⟨rfl, child, rfl, hmem⟩
    exact ⟨(slot, .node child), hmem, List.mem_singleton.mpr rfl⟩

/-- A filled slot holds a plain value or a nested node. -/
theorem filled_perm (n : Node) :
    n.filled.Perm (n.values.map spot ++ n.links.map spot) := by
  unfold filled values links
  induction n.slots with
  | nil => exact List.Perm.refl _
  | cons entry rest ih =>
      obtain ⟨slot, item⟩ := entry
      cases item with
      | value v => simpa [Item.values, Item.links, spot] using ih
      | node m =>
          have hcons := (ih.cons (n.path, slot)).trans List.perm_middle.symm
          simpa [Item.values, Item.links, spot] using hcons

/-- A property that passes from the nested nodes to the node holds of every node. -/
theorem induction {P : Node → Prop} (h : ∀ n : Node, (∀ child ∈ n.children, P child) → P n)
    (n : Node) : P n := by
  refine Node.rec (motive_1 := P)
    (motive_2 := fun item => ∀ child, item = .node child → P child)
    (motive_3 := fun slots => ∀ slot child, (slot, Item.node child) ∈ slots → P child)
    (motive_4 := fun entry => ∀ child, entry.2 = .node child → P child)
    ?_ ?_ ?_ ?_ ?_ ?_ n
  · intro path classRef slots ih
    refine h _ fun child hchild => ?_
    obtain ⟨slot, hmem⟩ := mem_children.mp hchild
    exact ih slot child hmem
  · intro v child heq
    cases heq
  · intro m ih child heq
    cases heq
    exact ih
  · intro slot child hmem
    cases hmem
  · intro entry rest ihEntry ihRest slot child hmem
    rcases List.mem_cons.mp hmem with heq | hrest
    · exact ihEntry child (heq ▸ rfl)
    · exact ihRest slot child hrest
  · intro slot item ih child heq
    exact ih child heq

theorem nodesSlots_eq (slots : List (Slot × Item)) (path classRef : String) :
    nodesSlots slots = (mk path classRef slots).children.flatMap nodes := by
  induction slots with
  | nil => simp [nodesSlots, children, Node.slots]
  | cons entry rest ih =>
      obtain ⟨slot, item⟩ := entry
      cases item with
      | value v => simpa [nodesSlots, children, Node.slots] using ih
      | node child => simpa [nodesSlots, children, Node.slots] using ih

/-- The nodes of a tree: the root and the nodes of the nested trees. -/
theorem nodes_eq (n : Node) : n.nodes = n :: n.children.flatMap nodes := by
  cases n with
  | mk path classRef slots => rw [nodes, nodesSlots_eq slots path classRef]

theorem self_mem_nodes (n : Node) : n ∈ n.nodes := by
  rw [nodes_eq]
  exact List.mem_cons_self

theorem mem_nodes_of_mem_children {n child m : Node} (hchild : child ∈ n.children)
    (hm : m ∈ child.nodes) : m ∈ n.nodes := by
  rw [nodes_eq]
  exact List.mem_cons_of_mem _ (List.mem_flatMap.mpr ⟨child, hchild, hm⟩)

theorem Ordered.child {n child : Node} (h : n.Ordered) (hchild : child ∈ n.children) :
    child.Ordered :=
  fun m hm => h m (mem_nodes_of_mem_children hchild hm)

/-- What holds of all nodes of a tree holds of the root and of all nodes of the nested trees. -/
theorem forall_mem_nodes {n : Node} {P : Node → Prop} :
    (∀ m ∈ n.nodes, P m) ↔ P n ∧ ∀ child ∈ n.children, ∀ m ∈ child.nodes, P m := by
  rw [nodes_eq, List.forall_mem_cons, List.forall_mem_flatMap]

/-- Below a node below another one is below that one. -/
theorem mem_nodes_trans {a b m : Node} (hb : b ∈ a.nodes) (hm : m ∈ b.nodes) : m ∈ a.nodes := by
  induction a using Node.induction with
  | h a ih =>
      rw [nodes_eq] at hb
      rcases List.mem_cons.mp hb with rfl | hbelow
      · exact hm
      · obtain ⟨child, hchild, hb⟩ := List.mem_flatMap.mp hbelow
        exact mem_nodes_of_mem_children hchild (ih child hchild hb)

theorem mem_all_of_mem {trees : List Node} {n : Node} (h : n ∈ trees) : n ∈ all trees :=
  List.mem_flatMap.mpr ⟨n, h, self_mem_nodes n⟩

/-- Nested nodes belong to the nodes of their tree. -/
theorem mem_all_of_mem_children {trees : List Node} {n child : Node} (hn : n ∈ all trees)
    (hchild : child ∈ n.children) : child ∈ all trees := by
  obtain ⟨root, hroot, hbelow⟩ := List.mem_flatMap.mp hn
  exact List.mem_flatMap.mpr ⟨root, hroot,
    mem_nodes_trans hbelow (mem_nodes_of_mem_children hchild (self_mem_nodes child))⟩

theorem countSlots_eq {slots : List (Slot × Item)} {path classRef : String}
    (h : ∀ child ∈ (mk path classRef slots).children, child.count = child.nodes.length) :
    countSlots slots = (nodesSlots slots).length := by
  induction slots with
  | nil => rfl
  | cons entry rest ih =>
      obtain ⟨slot, item⟩ := entry
      cases item with
      | value v => exact ih h
      | node child =>
          rw [countSlots, nodesSlots, List.length_append, h child List.mem_cons_self,
            ih fun other hother => h other (List.mem_cons_of_mem child hother)]

/-- Counting the nodes of a tree is measuring the list of its nodes. -/
theorem count_eq_length (n : Node) : n.count = n.nodes.length := by
  induction n using Node.induction with
  | h n ih =>
      cases n with
      | mk path classRef slots =>
          rw [count, countSlots_eq ih, nodes, List.length_cons, Nat.add_comm]

theorem depthSlots_le {slots : List (Slot × Item)} {path classRef : String} {bound : Nat}
    (h : ∀ child ∈ (mk path classRef slots).children, child.depth ≤ bound) :
    depthSlots slots ≤ bound := by
  induction slots with
  | nil => exact Nat.zero_le bound
  | cons entry rest ih =>
      obtain ⟨slot, item⟩ := entry
      cases item with
      | value v => exact ih h
      | node child =>
          refine Nat.max_le.mpr ⟨h child List.mem_cons_self, ih fun other hother => ?_⟩
          exact h other (List.mem_cons_of_mem child hother)

/-- A bound on the nested trees gives one on the tree. -/
theorem depth_le {n : Node} {bound : Nat} (h : ∀ child ∈ n.children, child.depth ≤ bound) :
    n.depth ≤ bound + 1 := by
  cases n with
  | mk path classRef slots =>
      have hslots := depthSlots_le h
      rw [depth]
      omega

end Node

/-- A node with the order of all slots in it. A node holds nodes and so cannot carry a proof about
itself; forests that are built and documents that are decoded give such trees. -/
structure Tree where
  root : Node
  ordered : root.Ordered

end Hyperparams

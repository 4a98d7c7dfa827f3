import Hyperparams.Proofs.Decimal.Digits
import Hyperparams.Proofs.Tree.Determined

/-!
# Writing trees as entries

A tree is written as the entries that declare its nodes and assign its plain values. When the path
of every node says where the node is, these entries make the tree again, in whatever order they
come.
-/

namespace Hyperparams

theorem isCompoundKey_toString (n : Nat) : isCompoundKey (toString n) = false := by
  have hdigits := Decimal.isDigits_toString n
  simp only [Decimal.isDigits, Bool.and_eq_true, List.all_eq_true] at hdigits
  refine isCompoundKey_eq_false_iff.mpr fun c hc heq => ?_
  subst heq
  cases hdigits.2 _ hc

namespace Slot

/-- A slot whose spelling is a segment that denotes the slot. -/
structure Writable (slot : Slot) : Prop where
  nonempty : slot.text ≠ ""
  segment : isCompoundKey slot.text = false
  argument : slot.text ≠ classSegment
  inRange : InRange slot.text
  denotes : ofSegment slot.text = slot

theorem writable_positional {i : Nat} (h : i ≤ Limits.positionalIndex) :
    (positional i).Writable := by
  have hdigits := Decimal.isDigits_toString i
  refine ⟨fun hempty => ?_, isCompoundKey_toString i, fun hclass => ?_, fun _ => ?_, ?_⟩
  · change toString i = "" at hempty
    rw [hempty] at hdigits
    cases hdigits
  · change toString i = classSegment at hclass
    rw [hclass] at hdigits
    revert hdigits
    decide
  · change Decimal.ofDigits (toString i).toList ≤ _
    rwa [Decimal.ofDigits_toString]
  · change ofSegment (toString i) = _
    rw [ofSegment, if_pos hdigits, Decimal.ofDigits_toString]

theorem writable_named {name : String} (hnonempty : name ≠ "")
    (hsegment : isCompoundKey name = false) (hargument : name ≠ classSegment)
    (hdigits : Decimal.isDigits name.toList = false) :
    (named name).Writable where
  nonempty := hnonempty
  segment := hsegment
  argument := hargument
  inRange h := by cases hdigits.symm.trans h
  denotes := by
    change ofSegment name = _
    simp [ofSegment, hdigits]

end Slot

namespace Node

/-- The entries that declare a node and assign the values in its slots. -/
def ownEntries (n : Node) : List (String × Value) :=
  (n.path ++ "." ++ classSegment, .str n.classRef) ::
    n.values.map fun (path, slot, v) => (path ++ "." ++ slot.text, v)

def entries (n : Node) : List (String × Value) :=
  n.nodes.flatMap ownEntries

/-- A tree whose paths say where its nodes are, within the limits on objects. -/
structure Writable (n : Node) : Prop where
  ordered : n.Ordered
  root : isCompoundKey n.path = false
  distinct : (n.nodes.map path).Nodup
  few : n.nodes.length ≤ Limits.objectCount
  segments : ∀ m ∈ n.nodes,
    "" ∉ keySegments m.path ∧ (keySegments m.path).length ≤ Limits.nestingDepth
  slots : ∀ m ∈ n.nodes, ∀ entry ∈ m.slots, entry.1.Writable
  children : ∀ m ∈ n.nodes, ∀ slot child, (slot, Item.node child) ∈ m.slots →
    child.path = m.path ++ "." ++ slot.text

/-- Every node but the root is nested in one node. -/
theorem flatMap_children_perm (n : Node) :
    (n.nodes.flatMap children).Perm (n.children.flatMap nodes) := by
  induction n using Node.induction with
  | h n ih =>
      rw [nodes_eq, List.flatMap_cons, List.flatMap_assoc]
      have hbelow : (n.children.flatMap fun child => child.nodes.flatMap children).Perm
          (n.children.flatMap fun child => child.children.flatMap nodes) :=
        List.Perm.flatMap_left n.children ih
      refine (hbelow.append_left n.children).trans ?_
      have hsplit := List.map_append_flatMap_perm n.children id
        fun child => child.children.flatMap nodes
      rw [List.map_id] at hsplit
      refine hsplit.trans (List.Perm.of_eq (List.flatMap_congr fun child _ => ?_))
      exact (nodes_eq child).symm

end Node

namespace Forest

open Node

section Own

variable {n : Node}

theorem declaration?_class (owner : String) (value : Value) :
    declaration? (owner ++ "." ++ classSegment, value) = some (owner, value) :=
  declaration?_eq_some_iff.mpr ⟨splitKey?_join (by decide), rfl⟩

theorem assignment?_class (owner : String) (value : Value) :
    assignment? (owner ++ "." ++ classSegment, value) = none := by
  unfold assignment?
  rw [splitKey?_join (by decide)]
  simp

/-- The argument of a node declares nothing. -/
theorem declaration?_argument {owner : String} {slot : Slot} (h : slot.Writable) (value : Value) :
    declaration? (owner ++ "." ++ slot.text, value) = none := by
  unfold declaration?
  rw [splitKey?_join h.segment]
  simp [h.argument]

/-- The argument of a node is assigned to the node. -/
theorem assignment?_argument {owner : String} {slot : Slot} (h : slot.Writable) (value : Value) :
    assignment? (owner ++ "." ++ slot.text, value) = some (owner, slot.text, value) :=
  assignment?_eq_some_iff.mpr ⟨splitKey?_join h.segment, h.argument, rfl⟩

theorem link?_argument {slot : Slot} (h : slot.Writable) (owner : String) :
    link? (owner ++ "." ++ slot.text) = some (owner, slot, owner ++ "." ++ slot.text) := by
  rw [link?_of_splitKey? (splitKey?_join h.segment), h.denotes]

/-- A node is declared once, with its class. -/
theorem declarations_ownEntries (h : ∀ entry ∈ n.slots, entry.1.Writable) :
    declarations n.ownEntries = [(n.path, .str n.classRef)] := by
  unfold declarations ownEntries
  rw [List.filterMap_cons_some (declaration?_class _ _), List.filterMap_map]
  refine congrArg _ (List.filterMap_eq_nil_iff.mpr fun value hvalue => ?_)
  exact declaration?_argument (h _ (mem_values.mp hvalue).2) _

/-- The values in the slots of a node are assigned. -/
theorem assignments_ownEntries (h : ∀ entry ∈ n.slots, entry.1.Writable) :
    assignments n.ownEntries = n.values.map fun (path, slot, v) => (path, slot.text, v) := by
  unfold assignments ownEntries
  rw [List.filterMap_cons_none (assignment?_class _ _), List.filterMap_map,
    ← List.filterMap_eq_map]
  refine List.filterMap_congr fun value hvalue => ?_
  exact assignment?_argument (h _ (mem_values.mp hvalue).2) _

/-- The path of a nested node says in which slot it is. -/
theorem links_eq (hslots : ∀ entry ∈ n.slots, entry.1.Writable)
    (hchildren : ∀ slot child, (slot, Item.node child) ∈ n.slots →
      child.path = n.path ++ "." ++ slot.text) :
    n.links = n.children.filterMap fun child => link? child.path := by
  obtain ⟨path, classRef, slots⟩ := n
  change ∀ entry ∈ slots, entry.1.Writable at hslots
  change ∀ slot child, (slot, Item.node child) ∈ slots →
    child.path = path ++ "." ++ slot.text at hchildren
  induction slots with
  | nil => rfl
  | cons entry rest ih =>
      obtain ⟨slot, item⟩ := entry
      obtain ⟨hslot, hrest⟩ := List.forall_mem_cons.mp hslots
      have hlater := ih hrest fun slot child hchild =>
        hchildren slot child (List.mem_cons_of_mem _ hchild)
      cases item with
      | value v => exact hlater
      | node child =>
          have hlink : link? child.path = some (path, slot, child.path) := by
            rw [hchildren slot child List.mem_cons_self]
            exact link?_argument hslot path
          change (path, slot, child.path) :: (Node.mk path classRef rest).links =
            (child :: (Node.mk path classRef rest).children).filterMap fun child => link? child.path
          simp only [List.filterMap_cons, hlink, hlater]

end Own

section Tree

variable {n : Node}

/-- The entries of a tree declare its nodes. -/
theorem declarations_entries (h : n.Writable) :
    declarations n.entries = n.nodes.map fun m => (m.path, .str m.classRef) := by
  unfold declarations entries
  rw [List.filterMap_flatMap, List.map_eq_flatMap]
  exact List.flatMap_congr fun m hm => declarations_ownEntries (h.slots m hm)

theorem owners_entries (h : n.Writable) : owners n.entries = n.nodes.map Node.path := by
  unfold owners
  rw [declarations_entries h, List.map_map]
  rfl

theorem assignments_entries (h : n.Writable) :
    assignments n.entries = (n.nodes.flatMap Node.values).map fun (path, slot, v) =>
      (path, slot.text, v) := by
  unfold assignments entries
  rw [List.filterMap_flatMap, List.map_flatMap]
  exact List.flatMap_congr fun m hm => assignments_ownEntries (h.slots m hm)

/-- The entries of a tree assign its plain values. -/
theorem assigned_entries (h : n.Writable) : assigned n.entries = n.nodes.flatMap Node.values := by
  unfold assigned
  rw [assignments_entries h, List.map_map]
  refine (List.map_congr_left fun value hvalue => ?_).trans (List.map_id _)
  obtain ⟨m, hm, hmem⟩ := List.mem_flatMap.mp hvalue
  have hslot := h.slots m hm _ (mem_values.mp hmem).2
  change (value.1, Slot.ofSegment value.2.1.text, value.2.2) = value
  rw [hslot.denotes]

/-- The nodes below the root have keys of several segments. -/
theorem isCompoundKey_of_mem_below (h : n.Writable) {m : Node}
    (hm : m ∈ n.children.flatMap Node.nodes) : isCompoundKey m.path = true := by
  obtain ⟨parent, hparent, hmem⟩ :=
    List.mem_flatMap.mp ((flatMap_children_perm n).mem_iff.mpr hm)
  obtain ⟨slot, hslot⟩ := mem_children.mp hmem
  rw [h.children parent hparent slot m hslot]
  exact isCompoundKey_join _ _

theorem rootOwners_entries (h : n.Writable) : rootOwners n.entries = [n.path] := by
  have hbelow : ((n.children.flatMap Node.nodes).map Node.path).filter
      (fun owner => !isCompoundKey owner) = [] := by
    refine List.filter_eq_nil_iff.mpr fun owner howner => ?_
    obtain ⟨m, hm, rfl⟩ := List.mem_map.mp howner
    simp [isCompoundKey_of_mem_below h hm]
  unfold rootOwners
  rw [owners_entries h, nodes_eq, List.map_cons, List.filter_cons_of_pos (by simp [h.root]), hbelow]

/-- The nested objects among the entries of a tree are the nodes below its root. -/
theorem nestedOwners_entries (h : n.Writable) :
    nestedOwners n.entries = (n.children.flatMap Node.nodes).map Node.path := by
  have hbelow : ((n.children.flatMap Node.nodes).map Node.path).filter isCompoundKey =
      (n.children.flatMap Node.nodes).map Node.path := by
    refine List.filter_eq_self.mpr fun owner howner => ?_
    obtain ⟨m, hm, rfl⟩ := List.mem_map.mp howner
    exact isCompoundKey_of_mem_below h hm
  unfold nestedOwners
  rw [owners_entries h, nodes_eq, List.map_cons, List.filter_cons_of_neg (by simp [h.root]), hbelow]

/-- Nested nodes are linked to where they are. -/
theorem links_entries_perm (h : n.Writable) :
    ((nestedOwners n.entries).filterMap link?).Perm (n.nodes.flatMap Node.links) := by
  have hlinks : n.nodes.flatMap Node.links =
      (n.nodes.flatMap Node.children).filterMap fun child => link? child.path := by
    rw [List.filterMap_flatMap]
    exact List.flatMap_congr fun m hm => links_eq (h.slots m hm) (h.children m hm)
  rw [nestedOwners_entries h, List.filterMap_map, hlinks]
  exact ((flatMap_children_perm n).filterMap _).symm

/-- A tree holds what its entries say. -/
theorem Writable.holds (h : n.Writable) :
    Holds [n] (n.nodes.map fun m => (m.path, m.classRef)) (assigned n.entries)
      ((nestedOwners n.entries).filterMap link?) := by
  have hall : all [n] = n.nodes := List.flatMap_singleton Node.nodes n
  refine ⟨by rw [hall], ?_, ?_, ?_⟩
  · rw [hall, assigned_entries h]
  · rw [hall]
    exact (links_entries_perm h).symm
  · rw [hall]
    exact h.ordered

theorem mem_entries (h : n.Writable) {entry : String × Value} (hentry : entry ∈ n.entries) :
    ∃ m ∈ n.nodes, ∃ segment, entry.1 = m.path ++ "." ++ segment ∧ segment ≠ "" ∧
      isCompoundKey segment = false := by
  obtain ⟨m, hm, hown⟩ := List.mem_flatMap.mp hentry
  rcases List.mem_cons.mp hown with rfl | hvalue
  · exact ⟨m, hm, classSegment, rfl, by decide, by decide⟩
  · obtain ⟨value, hmem, rfl⟩ := List.mem_map.mp hvalue
    obtain ⟨hpath, hslot⟩ := mem_values.mp hmem
    have hwritable := h.slots m hm _ hslot
    exact ⟨m, hm, value.2.1.text, by rw [← hpath], hwritable.nonempty, hwritable.segment⟩

/-- The slots that entries fill are those that are filled in the tree. -/
theorem placed_entries (h : n.Writable) :
    ∀ item ∈ items n.entries, Placeable (owners n.entries) item.1 item.2 := by
  refine items_placeable_iff.mpr
    ⟨fun assignment hmem => ?_, fun path hpath parent segment hsplit => ?_⟩
  · rw [assignments_entries h] at hmem
    obtain ⟨value, hvalue, rfl⟩ := List.mem_map.mp hmem
    obtain ⟨m, hm, hown⟩ := List.mem_flatMap.mp hvalue
    obtain ⟨howner, hslot⟩ := mem_values.mp hown
    refine ⟨?_, (h.slots m hm _ hslot).inRange⟩
    rw [owners_entries h]
    exact howner ▸ List.mem_map_of_mem hm
  · rw [nestedOwners_entries h] at hpath
    obtain ⟨child, hchild, rfl⟩ := List.mem_map.mp hpath
    obtain ⟨m, hm, hmem⟩ := List.mem_flatMap.mp ((flatMap_children_perm n).mem_iff.mpr hchild)
    obtain ⟨slot, hslot⟩ := mem_children.mp hmem
    have hwritable := h.slots m hm _ hslot
    rw [h.children m hm slot child hslot, splitKey?_join hwritable.segment] at hsplit
    obtain ⟨rfl, rfl⟩ := Prod.mk.inj (Option.some.inj hsplit)
    refine ⟨?_, hwritable.inRange⟩
    rw [owners_entries h]
    exact List.mem_map_of_mem hm

/-- The entries of a tree describe a forest. -/
theorem acceptable_entries (h : n.Writable) : Acceptable n.entries where
  segments entry hentry := by
    obtain ⟨m, hm, segment, hkey, hnonempty, hsegment⟩ := mem_entries h hentry
    rw [hkey, keySegments_join hsegment, List.mem_append, List.mem_singleton, not_or]
    exact ⟨(h.segments m hm).1, Ne.symm hnonempty⟩
  classes declaration hmem := by
    rw [declarations_entries h] at hmem
    obtain ⟨m, hm, rfl⟩ := List.mem_map.mp hmem
    exact ⟨⟨m.classRef, rfl⟩, (h.segments m hm).2⟩
  few := by
    rw [declarations_entries h, List.length_map]
    exact h.few
  placed := placed_entries h
  free := by
    refine items_free_iff.mpr ((Writable.holds h).filled_nodup ?_)
    rw [List.map_map]
    exact h.distinct

/-- The entries of a tree: the declarations of its nodes and the assignments of its values. -/
theorem entries_perm_append (n : Node) :
    n.entries.Perm ((n.nodes.map fun m => (m.path ++ "." ++ classSegment, .str m.classRef)) ++
      (n.nodes.flatMap Node.values).map fun (path, slot, v) => (path ++ "." ++ slot.text, v)) := by
  rw [List.map_flatMap]
  exact (List.map_append_flatMap_perm n.nodes _ _).symm

/-- No key comes twice. -/
theorem keys_entries_nodup (h : n.Writable) : (n.entries.map Prod.fst).Nodup := by
  have hslot : ∀ value ∈ n.nodes.flatMap Node.values, value.2.1.Writable := by
    intro value hvalue
    obtain ⟨m, hm, hown⟩ := List.mem_flatMap.mp hvalue
    exact h.slots m hm _ (mem_values.mp hown).2
  have hclasses : ((n.nodes.map Node.path).map fun path => path ++ "." ++ classSegment).Nodup := by
    refine h.distinct.map fun path path' heq => ?_
    have hsplit := congrArg splitKey? heq
    rw [splitKey?_join (by decide), splitKey?_join (by decide)] at hsplit
    exact (Prod.mk.inj (Option.some.inj hsplit)).1
  have hvalues : ((n.nodes.flatMap Node.values).map fun (path, slot, _) =>
      path ++ "." ++ slot.text).Nodup := by
    have hspots := (Writable.holds h).filled_nodup (by rw [List.map_map]; exact h.distinct)
    rw [assigned_entries h] at hspots
    -- a key of a value says where the value is
    refine List.Nodup.of_map (fun key => (link? key).map spot) ?_
    have hread : (((n.nodes.flatMap Node.values).map fun (path, slot, _) =>
        path ++ "." ++ slot.text).map fun key => (link? key).map spot) =
          ((n.nodes.flatMap Node.values).map spot).map some := by
      rw [List.map_map, List.map_map]
      refine List.map_congr_left fun value hvalue => ?_
      change (link? (value.1 ++ "." ++ value.2.1.text)).map spot = some (spot value)
      rw [link?_argument (hslot value hvalue)]
      rfl
    rw [hread]
    exact (List.nodup_append.mp hspots).1.map (Option.some_injective _)
  rw [(entries_perm_append n |>.map Prod.fst).nodup_iff, List.map_append, List.map_map,
    List.map_map]
  rw [List.map_map] at hclasses
  refine hclasses.append hvalues fun key hkey hkey' => ?_
  obtain ⟨m, -, rfl⟩ := List.mem_map.mp hkey
  obtain ⟨value, hvalue, heq⟩ := List.mem_map.mp hkey'
  have hsplit := congrArg splitKey? heq
  dsimp only [Function.comp_apply] at hsplit
  rw [splitKey?_join (hslot value hvalue).segment, splitKey?_join (by decide)] at hsplit
  exact (hslot value hvalue).argument (Prod.mk.inj (Option.some.inj hsplit)).2

variable {prefs : Preferences.Building} {c : Arguments}

/-- A tree is built from its entries, in whatever order they come. -/
theorem build_of_entries_perm (h : n.Writable) (hc : c.toList.Perm n.entries) :
    (build prefs c).result = .ok { roots := [n] } := by
  have hkeys : ∀ key ∈ c.keys, isCompoundKey key = true := by
    intro key hkey
    obtain ⟨entry, hentry, rfl⟩ := List.mem_map.mp hkey
    obtain ⟨m, -, segment, heq, -⟩ := mem_entries h (hc.mem_iff.mp hentry)
    rw [heq]
    exact isCompoundKey_join _ _
  obtain ⟨f, hf⟩ := exists_build hkeys ((acceptable_entries h).of_perm hc.symm)
  obtain ⟨classes, hbuilt⟩ := exists_built hf
  have hclasses : classes.Perm (n.nodes.map fun m => (m.path, m.classRef)) := by
    rw [← asDeclarations_perm_iff, hbuilt.classes_eq]
    refine (declarations_perm hc).trans (List.Perm.of_eq ?_)
    rw [declarations_entries h, asDeclarations, List.map_map]
    rfl
  have hroots : f.roots.map Node.path = [n.path] := by
    have howners := (owners_perm hc).filter fun owner => !isCompoundKey owner
    rw [hbuilt.roots_eq]
    refine List.perm_singleton.mp (howners.trans (List.Perm.of_eq ?_))
    exact rootOwners_entries h
  obtain ⟨root, hroot, hpath⟩ := List.map_eq_singleton_iff.mp hroots
  have hholds := hbuilt.holds
  rw [hroot] at hholds
  have hsame : root = n := by
    refine node_eq_of_holds hholds (Writable.holds h) hclasses ((hc.filterMap _).map _)
      ((nestedOwners_perm hc).filterMap link?) ?_ root (mem_all_of_mem List.mem_cons_self) n
      (mem_all_of_mem List.mem_cons_self) hpath
    rw [hbuilt.paths_eq]
    exact owners_nodup c.keys_nodup
  rw [hf, ← hsame, ← hroot]

end Tree

end Forest

end Hyperparams

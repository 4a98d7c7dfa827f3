import Hyperparams.Proofs.Tree.Regrouping

/-!
# Which entries make a forest

Entries are refused in each of the three passes, for different reasons. Together the reasons come to
one condition, in which the order of the entries and the order of the passes play no part.
-/

namespace Hyperparams

namespace Forest

open Node

/-- What goes into a slot, as an owner and a segment: every assignment and every nested object. A
key and an object of the same name are two items. -/
def items (entries : List (String × Value)) : List (String × String) :=
  (assignments entries).map (fun (owner, segment, _) => (owner, segment)) ++
    (nestedOwners entries).filterMap splitKey?

/-- The entries that describe a forest. -/
structure Acceptable (entries : List (String × Value)) : Prop where
  /-- No segment of a key is empty. -/
  segments : ∀ entry ∈ entries, "" ∉ keySegments entry.1
  /-- Every declared class is a string, and no declared object is nested too deep. -/
  classes : ∀ declaration ∈ declarations entries,
    (∃ classRef, declaration.2 = .str classRef) ∧
      (keySegments declaration.1).length ≤ Limits.nestingDepth
  /-- There are not too many objects. -/
  few : (declarations entries).length ≤ Limits.objectCount
  /-- Every item goes to a declared object, into a slot within the limit. -/
  placed : ∀ item ∈ items entries, Placeable (owners entries) item.1 item.2
  /-- No two items go into the same slot of one object. -/
  free : (items entries).Pairwise fun a b => a.1 = b.1 → ¬ Slot.SameSlot a.2 b.2

section Items

variable {entries : List (String × Value)}

/-- The slots of the items are those of the assigned values and of the links. -/
theorem items_spots (entries : List (String × Value)) :
    (items entries).map (fun item => (item.1, Slot.ofSegment item.2)) =
      (assigned entries).map spot ++ ((nestedOwners entries).filterMap link?).map spot := by
  rw [items, List.map_append, assigned, List.map_map, List.map_map, List.map_filterMap,
    List.map_filterMap]
  congr 1
  refine List.filterMap_congr fun path _ => ?_
  rw [link?, Option.map_map]
  rfl

/-- No slot is filled twice exactly if no two items have spellings of the same slot. -/
theorem items_free_iff :
    ((items entries).Pairwise fun a b => a.1 = b.1 → ¬ Slot.SameSlot a.2 b.2) ↔
      ((assigned entries).map spot ++ ((nestedOwners entries).filterMap link?).map spot).Nodup := by
  rw [← items_spots, List.Nodup, List.pairwise_map]
  refine List.Pairwise.iff fun a b => ?_
  rw [Ne, Prod.mk.injEq, Slot.ofSegment_eq_iff, not_and]

theorem items_placeable_iff :
    (∀ item ∈ items entries, Placeable (owners entries) item.1 item.2) ↔
      (∀ assignment ∈ assignments entries,
        Placeable (owners entries) assignment.1 assignment.2.1) ∧
      ∀ path ∈ nestedOwners entries, Attachable (owners entries) path := by
  rw [items, List.forall_mem_append, List.forall_mem_map]
  refine and_congr_right fun _ => ⟨fun h path hpath parent segment hsplit => ?_, fun h => ?_⟩
  · exact h (parent, segment) (List.mem_filterMap.mpr ⟨path, hpath, hsplit⟩)
  · rintro ⟨parent, segment⟩ hitem
    obtain ⟨path, hpath, hsplit⟩ := List.mem_filterMap.mp hitem
    exact h path hpath parent segment hsplit

/-- Declarations of classes that are strings make objects. -/
theorem exists_declares {declarations : List (String × Value)}
    (h : ∀ declaration ∈ declarations, ∃ classRef, declaration.2 = .str classRef) :
    ∃ declared, Declares declared declarations := by
  induction declarations with
  | nil => exact ⟨[], rfl, by simp⟩
  | cons declaration rest ih =>
      obtain ⟨owner, value⟩ := declaration
      obtain ⟨⟨classRef, hclass⟩, hrest⟩ := List.forall_mem_cons.mp h
      obtain ⟨tail, htail⟩ := ih hrest
      exact ⟨_, declares_cons_iff.mpr ⟨classRef, tail, hclass, rfl, htail⟩⟩

end Items

section Build

variable {prefs : Preferences.Building} {c : Arguments} {f : Forest}

/-- Entries that a forest is built from are acceptable. -/
theorem acceptable_of_build (h : (build prefs c).result = .ok f) : Acceptable c.toList := by
  obtain ⟨classes, hbuilt⟩ := exists_built h
  refine ⟨hbuilt.declarable.segments, hbuilt.declarable.classes, hbuilt.few,
    items_placeable_iff.mpr ⟨hbuilt.placeable, hbuilt.attachable⟩, items_free_iff.mpr ?_⟩
  refine hbuilt.holds.filled_nodup ?_
  rw [hbuilt.paths_eq]
  exact owners_nodup c.keys_nodup

/-- From acceptable entries with compound keys a forest is built. -/
theorem exists_build (hkeys : ∀ key ∈ c.keys, isCompoundKey key = true)
    (h : Acceptable c.toList) : ∃ f, (build prefs c).result = .ok f := by
  have howned : ∀ entry ∈ c.toList, entry.1 ≠ classSegment := by
    intro entry hentry heq
    have hcompound := hkeys entry.1 (List.mem_map_of_mem hentry)
    rw [heq] at hcompound
    exact absurd hcompound (by decide)
  obtain ⟨hplaceable, hattachable⟩ := items_placeable_iff.mp h.placed
  have hfree := items_free_iff.mp h.free
  obtain ⟨declared, hdeclares⟩ :=
    exists_declares fun declaration hmem => (h.classes declaration hmem).1
  have hdeclared : declareAll c.toList = .ok declared :=
    declareAll_eq_ok_iff.mpr ⟨⟨h.segments, howned, h.classes⟩, h.few, hdeclares⟩
  have howners := paths_of_declares hdeclares
  have hholds := holds_of_declares hdeclares
  obtain ⟨placed, hplaced⟩ := exists_placeAll hholds
    (howners ▸ hplaceable) (by
      rw [List.append_nil, List.map_nil, List.append_nil]
      exact (List.nodup_append.mp hfree).1)
  obtain ⟨-, hpaths, hkeep⟩ := placeAll_eq_ok hplaced
  rw [howners] at hpaths
  have hnested := nestedPaths_perm_nestedOwners hpaths
  obtain ⟨roots, hroots⟩ := exists_attachAll prefs (hkeep _ _ hholds)
    (movable_nestedPaths (hpaths ▸ owners_nodup c.keys_nodup)) (nestedPaths_deepest placed)
    (fun path hpath => hpaths ▸ hattachable path (hnested.mem_iff.mp hpath)) (by
      rw [List.append_nil, List.append_nil]
      exact (((hnested.filterMap _).map _).append_left _).nodup_iff.mpr hfree)
  exact ⟨{ roots }, build_result_eq_ok_iff.mpr ⟨declared, placed, hdeclared, hplaced, hroots⟩⟩

/-- A forest is built from compound keys exactly if the entries are acceptable. -/
theorem build_ok_iff_acceptable (hkeys : ∀ key ∈ c.keys, isCompoundKey key = true) :
    (∃ f, (build prefs c).result = .ok f) ↔ Acceptable c.toList :=
  ⟨fun ⟨_, h⟩ => acceptable_of_build h, exists_build hkeys⟩

/-- Two spellings of one position, the second of them for an object. -/
def collidingEntries : List (String × Value) :=
  [("net.__class__", .str "Net"), ("net.0", .int 3), ("net.00.__class__", .str "Head")]

/-- A position that is spelled twice, for a value and for an object, is refused. -/
theorem not_build_collidingEntries :
    (∀ key ∈ (Arguments.ofList collidingEntries).keys, isCompoundKey key = true) ∧
      ¬ ∃ f, (build {} (Arguments.ofList collidingEntries)).result = .ok f := by
  have hentries : (Arguments.ofList collidingEntries).toList = collidingEntries :=
    Arguments.toList_ofList (by decide)
  have hkeys : ∀ key ∈ (Arguments.ofList collidingEntries).keys, isCompoundKey key = true := by
    rw [Arguments.keys, hentries]
    decide
  refine ⟨hkeys, fun hbuild => ?_⟩
  have hfree := ((build_ok_iff_acceptable hkeys).mp hbuild).free
  rw [hentries, items_free_iff] at hfree
  revert hfree
  decide +kernel

end Build

end Forest

end Hyperparams

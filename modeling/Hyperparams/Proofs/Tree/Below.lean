import Hyperparams.Proofs.Tree.Determined
import Hyperparams.Proofs.Tree.Roots

/-!
# Entries below a root

Any entries can be moved below a new root: every key gets the name of the root in front. What was
an entry of no object becomes an argument of the root, and what was a root becomes an object nested
in it. So a name that was both is a slot that two items go into.
-/

namespace Hyperparams

def keyUnder (root key : String) : String :=
  root ++ "." ++ key

section Keys

variable {root key owner segment : String}

theorem toList_keyUnder (root key : String) :
    (keyUnder root key).toList = root.toList ++ keySeparator :: key.toList :=
  toList_join root key

/-- Keys stay apart below a root. -/
theorem keyUnder_injective (root : String) : (keyUnder root).Injective := by
  intro a b hab
  have htext := congrArg String.toList hab
  rw [toList_keyUnder, toList_keyUnder] at htext
  exact String.toList_injective (List.cons_inj_right _ |>.mp (List.append_cancel_left htext))

theorem isCompoundKey_keyUnder (root key : String) : isCompoundKey (keyUnder root key) = true :=
  isCompoundKey_join root key

theorem keyUnder_ne_of_not_compound (h : isCompoundKey root = false) (key : String) :
    root ≠ keyUnder root key := by
  intro heq
  rw [heq, isCompoundKey_keyUnder] at h
  cases h

theorem splitKey?_keyUnder_of_not_compound (h : isCompoundKey key = false) :
    splitKey? (keyUnder root key) = some (root, key) :=
  splitKey?_join h

/-- Below a root a key has the same last segment. -/
theorem splitKey?_keyUnder (h : splitKey? key = some (owner, segment)) :
    splitKey? (keyUnder root key) = some (keyUnder root owner, segment) := by
  obtain ⟨rfl, hsegment⟩ := splitKey?_eq_some_iff.mp h
  refine splitKey?_eq_some_iff.mpr ⟨?_, hsegment⟩
  simp [keyUnder, String.append_assoc]

theorem keySegments_keyUnder (h : isCompoundKey root = false) (key : String) :
    keySegments (keyUnder root key) = root :: keySegments key := by
  unfold keySegments
  rw [toList_keyUnder, pieces_append_separator,
    pieces_of_forall_ne (isCompoundKey_eq_false_iff.mp h)]
  simp

end Keys

namespace Forest

/-- Which objects are declared can be read from the keys. -/
theorem mem_owners_iff {entries : List (String × Value)} {owner : String} :
    owner ∈ owners entries ↔ keyUnder owner classSegment ∈ entries.map Prod.fst := by
  have hsplit : ∀ key, splitKey? key = some (owner, classSegment) ↔
      key = keyUnder owner classSegment := by
    intro key
    rw [splitKey?_eq_some_iff, and_iff_left (by decide)]
    exact Iff.rfl
  unfold owners declarations
  simp only [List.mem_map, List.mem_filterMap]
  constructor
  · rintro ⟨⟨owner', value⟩, ⟨entry, hentry, hdeclares⟩, rfl⟩
    exact ⟨entry, hentry, (hsplit _).mp (declaration?_eq_some_iff.mp hdeclares).1⟩
  · rintro ⟨entry, hentry, hkey⟩
    exact ⟨_, ⟨entry, hentry, declaration?_eq_some_iff.mpr ⟨(hsplit _).mpr hkey, rfl⟩⟩, rfl⟩

/-- The entries of a root of a class, with plain and compound arguments. -/
def entriesBelow (root classRef : String) (plain compound : List (String × Value)) :
    List (String × Value) :=
  (keyUnder root classSegment, .str classRef) ::
    (plain ++ compound).map fun entry => (keyUnder root entry.1, entry.2)

/-- Plain and compound entries that are arguments by name, and none of them the class. -/
structure Namable (plain compound : List (String × Value)) : Prop where
  single : ∀ entry ∈ plain, isCompoundKey entry.1 = false
  several : ∀ entry ∈ compound, isCompoundKey entry.1 = true
  argument : ∀ entry ∈ plain, entry.1 ≠ classSegment
  named : ∀ entry ∈ plain ++ compound, Decimal.isDigits (keyRoot entry.1).toList = false
  distinct : ((plain ++ compound).map Prod.fst).Nodup

section Entries

variable {root classRef : String} {plain compound : List (String × Value)}

theorem declaration?_keyUnder_of_plain {entry : String × Value} (h : isCompoundKey entry.1 = false)
    (hclass : entry.1 ≠ classSegment) : declaration? (keyUnder root entry.1, entry.2) = none := by
  unfold declaration?
  rw [splitKey?_keyUnder_of_not_compound h]
  simp [hclass]

/-- Below a root the same objects are declared. -/
theorem declaration?_keyUnder {entry : String × Value} (h : isCompoundKey entry.1 = true) :
    declaration? (keyUnder root entry.1, entry.2) =
      (declaration? entry).map fun declaration => (keyUnder root declaration.1, declaration.2) := by
  obtain ⟨owner, segment, hsplit⟩ := exists_splitKey? h
  unfold declaration?
  rw [splitKey?_keyUnder hsplit, hsplit]
  by_cases hclass : segment = classSegment <;> simp [hclass]

theorem assignment?_keyUnder_of_plain {entry : String × Value} (h : isCompoundKey entry.1 = false)
    (hclass : entry.1 ≠ classSegment) :
    assignment? (keyUnder root entry.1, entry.2) = some (root, entry) := by
  unfold assignment?
  rw [splitKey?_keyUnder_of_not_compound h]
  simp [hclass]

theorem assignment?_keyUnder {entry : String × Value} (h : isCompoundKey entry.1 = true) :
    assignment? (keyUnder root entry.1, entry.2) =
      (assignment? entry).map fun assignment => (keyUnder root assignment.1, assignment.2) := by
  obtain ⟨owner, segment, hsplit⟩ := exists_splitKey? h
  unfold assignment?
  rw [splitKey?_keyUnder hsplit, hsplit]
  by_cases hclass : segment = classSegment <;> simp [hclass]

/-- Below a root, its own class is declared and all declarations move along. -/
theorem declarations_entriesBelow (h : Namable plain compound) (root classRef : String) :
    declarations (entriesBelow root classRef plain compound) =
      (root, .str classRef) :: (declarations compound).map fun declaration =>
        (keyUnder root declaration.1, declaration.2) := by
  have hroot : declaration? (keyUnder root classSegment, .str classRef) =
      some (root, .str classRef) :=
    declaration?_eq_some_iff.mpr ⟨splitKey?_keyUnder_of_not_compound (by decide), rfl⟩
  unfold declarations entriesBelow
  rw [List.filterMap_cons_some hroot, List.map_append, List.filterMap_append, List.filterMap_map,
    List.filterMap_map, List.map_filterMap]
  refine congrArg (_ :: ·) ((congrArg (· ++ _) ?_).trans (List.nil_append _) |>.trans ?_)
  · exact List.filterMap_eq_nil_iff.mpr fun entry hentry =>
      declaration?_keyUnder_of_plain (h.single entry hentry) (h.argument entry hentry)
  · exact List.filterMap_congr fun entry hentry => declaration?_keyUnder (h.several entry hentry)

/-- Plain entries are arguments of the root, and all other assignments move along. -/
theorem assignments_entriesBelow (h : Namable plain compound) (root classRef : String) :
    assignments (entriesBelow root classRef plain compound) =
      (plain.map fun entry => (root, entry)) ++ (assignments compound).map fun assignment =>
        (keyUnder root assignment.1, assignment.2) := by
  have hroot : assignment? (keyUnder root classSegment, .str classRef) = none := by
    unfold assignment?
    rw [splitKey?_keyUnder_of_not_compound (by decide)]
    simp
  unfold assignments entriesBelow
  rw [List.filterMap_cons_none hroot, List.map_append, List.filterMap_append, List.filterMap_map,
    List.filterMap_map, List.map_filterMap]
  congr 1
  · rw [← List.filterMap_eq_map]
    exact List.filterMap_congr fun entry hentry =>
      assignment?_keyUnder_of_plain (h.single entry hentry) (h.argument entry hentry)
  · exact List.filterMap_congr fun entry hentry => assignment?_keyUnder (h.several entry hentry)

/-- Below a root the objects are the root and those with longer paths. -/
theorem owners_entriesBelow (h : Namable plain compound) (root classRef : String) :
    owners (entriesBelow root classRef plain compound) =
      root :: (owners compound).map (keyUnder root) := by
  unfold owners
  rw [declarations_entriesBelow h, List.map_cons, List.map_map, List.map_map]
  rfl

/-- The objects below a root: what were roots, and what were nested objects. -/
theorem nestedOwners_entriesBelow_perm (h : Namable plain compound)
    (hroot : isCompoundKey root = false) (classRef : String) :
    (nestedOwners (entriesBelow root classRef plain compound)).Perm
      ((rootOwners compound ++ nestedOwners compound).map (keyUnder root)) := by
  have howners : (rootOwners compound ++ nestedOwners compound).Perm (owners compound) :=
    List.perm_append_comm.trans (List.filter_append_perm isCompoundKey (owners compound))
  have hnested : nestedOwners (entriesBelow root classRef plain compound) =
      (owners compound).map (keyUnder root) := by
    unfold nestedOwners
    rw [owners_entriesBelow h, List.filter_cons_of_neg (by simp [hroot]), List.filter_eq_self]
    exact List.forall_mem_map.mpr fun owner _ => isCompoundKey_keyUnder root owner
  rw [hnested]
  exact howners.symm.map _

theorem rootOwners_entriesBelow (h : Namable plain compound) (hroot : isCompoundKey root = false)
    (classRef : String) :
    rootOwners (entriesBelow root classRef plain compound) = [root] := by
  unfold rootOwners
  rw [owners_entriesBelow h, List.filter_cons_of_pos (by simp [hroot])]
  refine congrArg (root :: ·) (List.filter_eq_nil_iff.mpr fun owner howner => ?_)
  obtain ⟨owner', -, rfl⟩ := List.mem_map.mp howner
  simp [isCompoundKey_keyUnder]

/-- Into the root go the plain entries and what were roots. All other items move along. -/
theorem items_entriesBelow (h : Namable plain compound) (hroot : isCompoundKey root = false)
    (classRef : String) :
    (items (entriesBelow root classRef plain compound)).Perm
      ((plain.map Prod.fst ++ rootOwners compound).map (root, ·) ++
        (items compound).map fun item => (keyUnder root item.1, item.2)) := by
  have hroots : (rootOwners compound).filterMap (splitKey? ∘ keyUnder root) =
      (rootOwners compound).map (root, ·) := by
    rw [← List.filterMap_eq_map]
    refine List.filterMap_congr fun owner howner => ?_
    exact splitKey?_keyUnder_of_not_compound (by simpa using (List.mem_filter.mp howner).2)
  have hnested : (nestedOwners compound).filterMap (splitKey? ∘ keyUnder root) =
      ((nestedOwners compound).filterMap splitKey?).map
        fun item => (keyUnder root item.1, item.2) := by
    rw [List.map_filterMap]
    refine List.filterMap_congr fun owner howner => ?_
    obtain ⟨parent, segment, hsplit⟩ := exists_splitKey? (List.mem_filter.mp howner).2
    rw [hsplit]
    exact splitKey?_keyUnder hsplit
  have hmoved := (nestedOwners_entriesBelow_perm h hroot classRef).filterMap splitKey?
  rw [List.filterMap_map, List.filterMap_append, hroots, hnested] at hmoved
  unfold items
  rw [assignments_entriesBelow h]
  simp only [List.map_append, List.map_map, List.append_assoc]
  exact ((hmoved.append_left _).trans (List.perm_append_comm_assoc _ _ _)).append_left _

theorem free_iff_nodup {entries : List (String × Value)} :
    ((items entries).Pairwise fun a b => a.1 = b.1 → ¬ Slot.SameSlot a.2 b.2) ↔
      ((items entries).map fun item => (item.1, Slot.ofSegment item.2)).Nodup := by
  rw [items_free_iff, items_spots]

/-- What goes into the root goes there by name. -/
theorem Namable.isDigits_eq_false (h : Namable plain compound) {name : String}
    (hname : name ∈ plain.map Prod.fst ++ rootOwners compound) :
    Decimal.isDigits name.toList = false := by
  rcases List.mem_append.mp hname with hplain | hroot
  · obtain ⟨entry, hentry, rfl⟩ := List.mem_map.mp hplain
    rw [← keyRoot_of_not_compound (h.single entry hentry)]
    exact h.named entry (List.mem_append_left _ hentry)
  · obtain ⟨entry, hentry, -, rfl⟩ := exists_key_of_rootOwner hroot
    exact h.named entry (List.mem_append_right _ hentry)

/-- A slot of the root is filled twice if two names are the same. All other slots move along. -/
theorem free_entriesBelow_iff (h : Namable plain compound) (hroot : isCompoundKey root = false)
    (classRef : String) :
    ((items (entriesBelow root classRef plain compound)).Pairwise
        fun a b => a.1 = b.1 → ¬ Slot.SameSlot a.2 b.2) ↔
      (items compound).Pairwise (fun a b => a.1 = b.1 → ¬ Slot.SameSlot a.2 b.2) ∧
        (plain.map Prod.fst).Disjoint (rootOwners compound) := by
  obtain ⟨hplainKeys, hcompoundKeys, -⟩ :=
    List.nodup_append.mp (List.map_append ▸ h.distinct : (plain.map Prod.fst ++ _).Nodup)
  have hspots := (items_entriesBelow h hroot classRef).map fun item =>
    (item.1, Slot.ofSegment item.2)
  have hnames : ((plain.map Prod.fst ++ rootOwners compound).map (root, ·)).map
      (fun item => (item.1, Slot.ofSegment item.2)) =
        (plain.map Prod.fst ++ rootOwners compound).map fun name => (root, Slot.named name) := by
    rw [List.map_map]
    refine List.map_congr_left fun name hname => ?_
    simp [Slot.ofSegment, h.isDigits_eq_false hname]
  have hmoved : ((items compound).map fun item => (keyUnder root item.1, item.2)).map
      (fun item => (item.1, Slot.ofSegment item.2)) =
        ((items compound).map fun item => (item.1, Slot.ofSegment item.2)).map
          fun spot => (keyUnder root spot.1, spot.2) := by
    rw [List.map_map, List.map_map]
    rfl
  rw [List.map_append, hnames, hmoved] at hspots
  -- slots of the root have other owners than slots that moved along
  have hnamed : Function.Injective fun name => (root, Slot.named name) := fun a b heq => by
    simpa using heq
  have hunder : Function.Injective fun spot : String × Slot => (keyUnder root spot.1, spot.2) :=
    (keyUnder_injective root).prodMap Function.injective_id
  have hapart : ((plain.map Prod.fst ++ rootOwners compound).map fun name =>
      (root, Slot.named name)).Disjoint (((items compound).map fun item =>
        (item.1, Slot.ofSegment item.2)).map fun spot => (keyUnder root spot.1, spot.2)) := by
    intro spot hspot hspot'
    obtain ⟨name, -, rfl⟩ := List.mem_map.mp hspot
    obtain ⟨spot', -, heq⟩ := List.mem_map.mp hspot'
    exact keyUnder_ne_of_not_compound hroot _ (congrArg Prod.fst heq).symm
  rw [free_iff_nodup, free_iff_nodup, hspots.nodup_iff, List.nodup_append',
    List.nodup_map_iff hnamed, List.nodup_map_iff hunder, List.nodup_append']
  have hroots : (rootOwners compound).Nodup := (owners_nodup hcompoundKeys).filter _
  constructor
  · rintro ⟨⟨-, -, hfree⟩, hcompound, -⟩
    exact ⟨hcompound, hfree⟩
  · rintro ⟨hcompound, hfree⟩
    exact ⟨⟨hplainKeys, hroots, hfree⟩, hcompound, hapart⟩

/-- Moving everything below a root changes nothing about what can be placed. -/
theorem placeable_keyUnder_iff {owners : List String} {owner segment : String}
    (hroot : isCompoundKey root = false) :
    Placeable (root :: owners.map (keyUnder root)) (keyUnder root owner) segment ↔
      Placeable owners owner segment := by
  unfold Placeable
  rw [List.mem_cons, or_iff_right (keyUnder_ne_of_not_compound hroot owner).symm,
    List.mem_map_of_injective (keyUnder_injective root)]

/-- Below a root everything can be placed if all compound entries can. -/
theorem placed_entriesBelow_iff (h : Namable plain compound) (hroot : isCompoundKey root = false)
    (classRef : String) :
    (∀ item ∈ items (entriesBelow root classRef plain compound),
        Placeable (owners (entriesBelow root classRef plain compound)) item.1 item.2) ↔
      ∀ item ∈ items compound, Placeable (owners compound) item.1 item.2 := by
  have hinto : ∀ name ∈ plain.map Prod.fst ++ rootOwners compound,
      Placeable (root :: (owners compound).map (keyUnder root)) root name := by
    intro name hname
    refine ⟨List.mem_cons_self, fun hdigits => ?_⟩
    rw [h.isDigits_eq_false hname] at hdigits
    cases hdigits
  rw [owners_entriesBelow h]
  simp only [(items_entriesBelow h hroot classRef).mem_iff]
  rw [List.forall_mem_append, List.forall_mem_map, List.forall_mem_map, and_iff_right hinto]
  simp only [placeable_keyUnder_iff hroot]

theorem segments_entriesBelow_iff (h : Namable plain compound) (hroot : isCompoundKey root = false)
    (hname : root ≠ "") (classRef : String) :
    (∀ entry ∈ entriesBelow root classRef plain compound, "" ∉ keySegments entry.1) ↔
      (∀ entry ∈ compound, "" ∉ keySegments entry.1) ∧ ∀ entry ∈ plain, entry.1 ≠ "" := by
  have hsegments : ∀ key, "" ∉ keySegments (keyUnder root key) ↔ "" ∉ keySegments key := by
    intro key
    rw [keySegments_keyUnder hroot, List.mem_cons, or_iff_right hname.symm]
  have hplain : ∀ entry ∈ plain, ("" ∉ keySegments entry.1 ↔ entry.1 ≠ "") := by
    intro entry hentry
    rw [keySegments_of_not_compound (h.single entry hentry), List.mem_singleton, ne_comm]
  unfold entriesBelow
  rw [List.forall_mem_cons, List.forall_mem_map, List.forall_mem_append]
  simp only [hsegments]
  rw [and_iff_right (by decide), and_comm]
  exact and_congr_right fun _ => forall₂_congr hplain

/-- Entries below a root are acceptable if they were, unless a name would be that of two items. -/
theorem acceptable_entriesBelow_iff (h : Namable plain compound)
    (hroot : isCompoundKey root = false) (hname : root ≠ "") (classRef : String)
    (hdepth : ∀ owner ∈ owners compound,
      (keySegments (keyUnder root owner)).length ≤ Limits.nestingDepth)
    (hfew : (owners compound).length + 1 ≤ Limits.objectCount) :
    Acceptable (entriesBelow root classRef plain compound) ↔
      Acceptable compound ∧ (∀ entry ∈ plain, entry.1 ≠ "") ∧
        (plain.map Prod.fst).Disjoint (rootOwners compound) := by
  have hdeclared : ∀ declaration ∈ declarations compound,
      (keySegments declaration.1).length ≤ Limits.nestingDepth := by
    intro declaration hdeclaration
    have hbelow := hdepth declaration.1 (List.mem_map_of_mem hdeclaration)
    rw [keySegments_keyUnder hroot, List.length_cons] at hbelow
    omega
  have hlength : (owners compound).length = (declarations compound).length := List.length_map _
  constructor
  · intro hbelow
    obtain ⟨hsegments, hnonempty⟩ := (segments_entriesBelow_iff h hroot hname classRef).mp
      hbelow.segments
    obtain ⟨hfree, hdisjoint⟩ := (free_entriesBelow_iff h hroot classRef).mp hbelow.free
    have hclasses := hbelow.classes
    rw [declarations_entriesBelow h, List.forall_mem_cons, List.forall_mem_map] at hclasses
    refine ⟨⟨hsegments, fun declaration hmem => ?_, by omega,
      (placed_entriesBelow_iff h hroot classRef).mp hbelow.placed, hfree⟩, hnonempty, hdisjoint⟩
    exact ⟨(hclasses.2 declaration hmem).1, hdeclared declaration hmem⟩
  · rintro ⟨hcompound, hnonempty, hdisjoint⟩
    refine ⟨(segments_entriesBelow_iff h hroot hname classRef).mpr ⟨hcompound.segments, hnonempty⟩,
      ?_, ?_, (placed_entriesBelow_iff h hroot classRef).mpr hcompound.placed,
      (free_entriesBelow_iff h hroot classRef).mpr ⟨hcompound.free, hdisjoint⟩⟩
    · rw [declarations_entriesBelow h, List.forall_mem_cons, List.forall_mem_map]
      refine ⟨⟨⟨classRef, rfl⟩, ?_⟩, fun declaration hmem => ?_⟩
      · rw [keySegments_of_not_compound hroot]
        exact show 1 ≤ Limits.nestingDepth by decide
      · exact ⟨(hcompound.classes declaration hmem).1,
          hdepth declaration.1 (List.mem_map_of_mem hmem)⟩
    · rw [declarations_entriesBelow h, List.length_cons, List.length_map]
      omega

end Entries

end Forest

end Hyperparams

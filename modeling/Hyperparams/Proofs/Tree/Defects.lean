import Hyperparams.Proofs.Tree.Acceptance
import Hyperparams.Proofs.Tree.Below

/-!
# Defects of entries

A forest is refused with one error, met in the first pass that fails. What the error names is there
in the entries, and says why they describe no forest: a key or a declaration that cannot stand, or a
slot that cannot be given to something that claims it.
-/

namespace Hyperparams

/-- Whether an error is about declarations, and not about what claims a slot. -/
def TreeError.OfDeclaration : TreeError → Prop
  | emptySegment _ | nestingTooDeep .. | invalidClassReference .. | tooManyObjects _ => True
  | _ => False

/-- What may claim a slot: an argument, by its key, or an object, by its path. -/
inductive Claimant where
  | argument (key : String)
  | object (path : String)

def Claimant.key : Claimant → String
  | argument key => key
  | object path => path ++ "." ++ classSegment

namespace Forest

open Node

section Defects

variable {entries : List (String × Value)}

/-- What claims a slot of which owner, and the segment that it claims the slot with: an argument
with the last segment of its key, and a declared object with the last segment of its path. -/
inductive Claims (entries : List (String × Value)) : Claimant → String → String → Prop
  | argument {key owner segment : String} {value : Value} (h : (key, value) ∈ entries)
      (hsplit : splitKey? key = some (owner, segment)) (hargument : segment ≠ classSegment) :
      Claims entries (.argument key) owner segment
  | object {path owner segment : String} (h : path ∈ owners entries)
      (hsplit : splitKey? path = some (owner, segment)) :
      Claims entries (.object path) owner segment

/-- What an error says of some entries, if it is true. -/
inductive Defect (entries : List (String × Value)) : TreeError → Prop
  | emptySegment {key : String} (hkey : key ∈ entries.map Prod.fst) (h : "" ∈ keySegments key) :
      Defect entries (.emptySegment key)
  | nestingTooDeep {owner : String} (howner : owner ∈ owners entries)
      (h : Limits.nestingDepth < (keySegments owner).length) :
      Defect entries (.nestingTooDeep owner (keySegments owner).length)
  | invalidClassReference {owner : String} {value : Value}
      (hclass : (owner ++ "." ++ classSegment, value) ∈ entries)
      (h : ∀ classRef, value ≠ .str classRef) :
      Defect entries (.invalidClassReference owner value.kind)
  | tooManyObjects (h : Limits.objectCount < (declarations entries).length) :
      Defect entries (.tooManyObjects (Limits.objectCount + 1))
  | missingClassDeclaration {claimant : Claimant} {owner segment : String}
      (hclaims : Claims entries claimant owner segment)
      (h : owner ++ "." ++ classSegment ∉ entries.map Prod.fst) :
      Defect entries (.missingClassDeclaration claimant.key owner)
  | positionalIndexTooLarge {claimant : Claimant} {owner segment : String}
      (hclaims : Claims entries claimant owner segment)
      (hkey : claimant.key ∈ entries.map Prod.fst) (hsegment : segment ∈ keySegments claimant.key)
      (hdigits : Decimal.isDigits segment.toList = true)
      (h : Limits.positionalIndex < Decimal.ofDigits segment.toList) :
      Defect entries (.positionalIndexTooLarge claimant.key segment)
  | duplicateArgument {path : String} {slot : Slot} {a b : Claimant} {s t : String}
      (hpath : path ∈ owners entries) (hne : a ≠ b) (ha : Claims entries a path s)
      (hb : Claims entries b path t) (hs : Slot.ofSegment s = slot) (ht : Slot.ofSegment t = slot) :
      Defect entries (.duplicateArgument path slot.text)

/-- A declaration is the entry of a class key. -/
theorem mem_declarations_iff {owner : String} {value : Value} :
    (owner, value) ∈ declarations entries ↔ (owner ++ "." ++ classSegment, value) ∈ entries := by
  constructor
  · intro h
    obtain ⟨⟨key, value'⟩, hentry, hdeclares⟩ := List.mem_filterMap.mp h
    obtain ⟨hsplit, rfl⟩ := declaration?_eq_some_iff.mp hdeclares
    rw [← (splitKey?_eq_some_iff.mp hsplit).1]
    exact hentry
  · intro h
    refine List.mem_filterMap.mpr ⟨_, h, declaration?_eq_some_iff.mpr ⟨?_, rfl⟩⟩
    exact splitKey?_join (by decide)

namespace Claims

variable {claimant : Claimant} {owner segment : String}

/-- The key that is named for a claimant is a key of the entries. -/
theorem key_mem (h : Claims entries claimant owner segment) :
    claimant.key ∈ entries.map Prod.fst := by
  cases h with
  | argument h => exact List.mem_map_of_mem h
  | object h => exact mem_owners_iff.mp h

/-- The segment of a claim stands in the key that is named for the claimant. -/
theorem segment_mem (h : Claims entries claimant owner segment) :
    segment ∈ keySegments claimant.key := by
  cases h with
  | argument _ hsplit =>
      obtain ⟨hkey, hsegment⟩ := splitKey?_eq_some_iff.mp hsplit
      rw [Claimant.key, hkey, keySegments_join hsegment]
      exact List.mem_append_right _ (List.mem_singleton.mpr rfl)
  | object _ hsplit =>
      obtain ⟨hpath, hsegment⟩ := splitKey?_eq_some_iff.mp hsplit
      rw [Claimant.key, keySegments_join (by decide), hpath, keySegments_join hsegment]
      exact List.mem_append_left _ (List.mem_append_right _ (List.mem_singleton.mpr rfl))

theorem mem_of_argument {key : String} (h : Claims entries (.argument key) owner segment) :
    (owner, segment) ∈ (assignments entries).map fun (owner, segment, _) => (owner, segment) := by
  cases h with
  | @argument _ _ _ value h hsplit hargument =>
      exact List.mem_map.mpr ⟨(owner, segment, value), List.mem_filterMap.mpr ⟨_, h,
        assignment?_eq_some_iff.mpr ⟨hsplit, hargument, rfl⟩⟩, rfl⟩

theorem mem_of_object {path : String} (h : Claims entries (.object path) owner segment) :
    (owner, segment) ∈ (nestedOwners entries).filterMap splitKey? := by
  cases h with
  | object h hsplit =>
      refine List.mem_filterMap.mpr ⟨_, List.mem_filter.mpr ⟨h, ?_⟩, hsplit⟩
      rw [(splitKey?_eq_some_iff.mp hsplit).1]
      exact isCompoundKey_join owner segment

/-- What claims a slot is one of the items that go into slots. -/
theorem mem_items (h : Claims entries claimant owner segment) :
    (owner, segment) ∈ items entries := by
  cases claimant with
  | argument key => exact List.mem_append_left _ h.mem_of_argument
  | object path => exact List.mem_append_right _ h.mem_of_object

/-- An argument claims the slot that its key ends in. -/
theorem argument_eq {key : String} (h : Claims entries (.argument key) owner segment) :
    key = owner ++ "." ++ segment := by
  cases h with
  | argument _ hsplit => exact (splitKey?_eq_some_iff.mp hsplit).1

theorem object_eq {path : String} (h : Claims entries (.object path) owner segment) :
    path = owner ++ "." ++ segment := by
  cases h with
  | object _ hsplit => exact (splitKey?_eq_some_iff.mp hsplit).1

end Claims

/-- Among acceptable entries no slot has two claimants. -/
theorem Acceptable.claimant_eq (hentries : Acceptable entries) {a b : Claimant}
    {owner s t : String} (ha : Claims entries a owner s) (hb : Claims entries b owner t)
    (hslot : Slot.ofSegment s = Slot.ofSegment t) : a = b := by
  have hsame := Slot.ofSegment_eq_iff.mp hslot
  have hsymm : Std.Symm fun a b : String × String => a.1 = b.1 → ¬ Slot.SameSlot a.2 b.2 := by
    refine ⟨fun a b h heq => ?_⟩
    rw [← Slot.ofSegment_eq_iff, eq_comm, Slot.ofSegment_eq_iff]
    exact h heq.symm
  obtain ⟨harguments, hobjects, hcross⟩ := List.pairwise_append.mp hentries.free
  cases a with
  | argument key =>
      cases b with
      | argument key' =>
          by_cases hst : s = t
          · rw [ha.argument_eq, hb.argument_eq, hst]
          · exact absurd hsame (harguments.forall ha.mem_of_argument hb.mem_of_argument
              (fun heq => hst (congrArg Prod.snd heq)) rfl)
      | object path =>
          exact absurd hsame (hcross _ ha.mem_of_argument _ hb.mem_of_object rfl)
  | object path =>
      cases b with
      | argument key =>
          exact absurd (Slot.ofSegment_eq_iff.mp hslot.symm)
            (hcross _ hb.mem_of_argument _ ha.mem_of_object rfl)
      | object path' =>
          by_cases hst : s = t
          · rw [ha.object_eq, hb.object_eq, hst]
          · exact absurd hsame (hobjects.forall ha.mem_of_object hb.mem_of_object
              (fun heq => hst (congrArg Prod.snd heq)) rfl)

/-- Where keys are well formed, declarations can stand and are not too many, no declaration has a
defect. -/
theorem not_defect_of_declaration (hsegments : ∀ entry ∈ entries, "" ∉ keySegments entry.1)
    (hclasses : ∀ declaration ∈ declarations entries,
      (∃ classRef, declaration.2 = .str classRef) ∧
        (keySegments declaration.1).length ≤ Limits.nestingDepth)
    (hfew : (declarations entries).length ≤ Limits.objectCount) {e : TreeError}
    (he : e.OfDeclaration) : ¬ Defect entries e := by
  intro hdefect
  cases hdefect with
  | emptySegment hkey hempty =>
      obtain ⟨entry, hentry, rfl⟩ := List.mem_map.mp hkey
      exact hsegments entry hentry hempty
  | nestingTooDeep howner hdeep =>
      obtain ⟨declaration, hdeclaration, rfl⟩ := List.mem_map.mp howner
      exact absurd (hclasses declaration hdeclaration).2 (not_le.mpr hdeep)
  | invalidClassReference hclass hvalue =>
      obtain ⟨classRef, heq⟩ := (hclasses _ (mem_declarations_iff.mpr hclass)).1
      exact hvalue classRef heq
  | tooManyObjects hmany => exact absurd hfew (not_le.mpr hmany)
  | missingClassDeclaration => exact he
  | positionalIndexTooLarge => exact he
  | duplicateArgument => exact he

/-- Acceptable entries have no defect. -/
theorem Acceptable.not_defect (h : Acceptable entries) (e : TreeError) : ¬ Defect entries e := by
  by_cases he : e.OfDeclaration
  · exact not_defect_of_declaration h.segments h.classes h.few he
  · intro hdefect
    cases hdefect with
    | emptySegment => exact he trivial
    | nestingTooDeep => exact he trivial
    | invalidClassReference => exact he trivial
    | tooManyObjects => exact he trivial
    | missingClassDeclaration hclaims hmissing =>
        exact hmissing (mem_owners_iff.mp (h.placed _ hclaims.mem_items).1)
    | positionalIndexTooLarge hclaims _ _ hdigits hlarge =>
        exact absurd ((h.placed _ hclaims.mem_items).2 hdigits) (not_le.mpr hlarge)
    | duplicateArgument _ hne ha hb hs ht => exact hne (h.claimant_eq ha hb (hs.trans ht.symm))

end Defects

section Declaring

variable {entries : List (String × Value)} {nodes : List Node} {key : String} {value : Value}
  {e : TreeError}

/-- Why a compound key is refused, whatever its value is. -/
theorem declaredOwner?_eq_error (hkey : isCompoundKey key = true)
    (h : declaredOwner? key = .error e) :
    ("" ∈ keySegments key ∧ e = .emptySegment key) ∨
      ∃ owner, splitKey? key = some (owner, classSegment) ∧
        Limits.nestingDepth < (keySegments owner).length ∧
        e = .nestingTooDeep owner (keySegments owner).length := by
  obtain ⟨owner, segment, hsplit⟩ := exists_splitKey? hkey
  obtain ⟨rfl, hsegment⟩ := splitKey?_eq_some_iff.mp hsplit
  have hsegments : keySegments (owner ++ "." ++ segment) = keySegments owner ++ [segment] :=
    keySegments_join hsegment
  unfold declaredOwner? at h
  dsimp only at h
  split at h
  next hempty =>
    cases h
    exact Or.inl ⟨any_isEmpty_iff.mp hempty, rfl⟩
  next =>
    split at h
    next => cases h
    next hlast =>
      have hclass : segment = classSegment := by simpa [hsegments] using hlast
      subst hclass
      have hdepth : (keySegments (owner ++ "." ++ classSegment)).length - 1 =
          (keySegments owner).length := by simp [hsegments]
      rw [hsplit, hdepth] at h
      dsimp only at h
      split at h
      next hdeep =>
        cases h
        exact Or.inr ⟨owner, hsplit, hdeep, rfl⟩
      next => cases h

/-- An entry that cannot be declared has a defect. The objects so far stand for declarations other
than its own. -/
theorem defect_of_declare (hentry : (key, value) ∈ entries) (hkey : isCompoundKey key = true)
    (hfew : nodes.length ≤ Limits.objectCount)
    (hmore : ∀ owner, splitKey? key = some (owner, classSegment) →
      nodes.length < (declarations entries).length)
    (h : declare nodes key value = .error e) : Defect entries e ∧ e.OfDeclaration := by
  have hmem : ∀ owner, splitKey? key = some (owner, classSegment) →
      (owner, value) ∈ declarations entries := fun owner hsplit =>
    List.mem_filterMap.mpr ⟨_, hentry, declaration?_eq_some_iff.mpr ⟨hsplit, rfl⟩⟩
  unfold declare at h
  rcases Outcome.bind_eq_error_iff.mp h with hrefused | ⟨found, hfound, hvalue⟩
  · rcases declaredOwner?_eq_error hkey hrefused with ⟨hempty, rfl⟩ | ⟨owner, hsplit, hdeep, rfl⟩
    · exact ⟨.emptySegment (List.mem_map_of_mem hentry) hempty, trivial⟩
    · exact ⟨.nestingTooDeep (List.mem_map_of_mem (hmem owner hsplit)) hdeep, trivial⟩
  · by_cases hdeclares : ∃ owner, splitKey? key = some (owner, classSegment)
    · obtain ⟨owner, hsplit⟩ := hdeclares
      obtain ⟨-, -, rfl⟩ := (declaredOwner?_of_declares hsplit).mp hfound
      dsimp only at hvalue
      split at hvalue
      next classRef =>
        split at hvalue
        next hmany =>
          cases hvalue
          rw [Nat.le_antisymm hfew hmany]
          exact ⟨.tooManyObjects (Nat.lt_of_le_of_lt hmany (hmore owner hsplit)), trivial⟩
        next => cases hvalue
      next hclass =>
        cases hvalue
        exact ⟨.invalidClassReference (mem_declarations_iff.mp (hmem owner hsplit)) hclass, trivial⟩
    · rw [not_exists] at hdeclares
      obtain ⟨-, -, rfl⟩ := (declaredOwner?_of_not_declares hdeclares).mp hfound
      cases hvalue

/-- Entries with compound keys that cannot be declared have a defect. -/
theorem defect_of_declareAll (hkeys : ∀ entry ∈ entries, isCompoundKey entry.1 = true)
    (h : declareAll entries = .error e) : Defect entries e ∧ e.OfDeclaration := by
  unfold declareAll at h
  rcases Outcome.bind_eq_error_iff.mp h with hrun | ⟨nodes, -, hreverse⟩
  · obtain ⟨before, entry, after, nodes, rfl, hbefore, hentry⟩ :=
      Outcome.exists_of_foldlM_eq_error hrun
    have hnone : ([] : List Node).length ≤ Limits.objectCount := Nat.zero_le _
    obtain ⟨-, hfew, added, rfl, hadded⟩ := (foldlM_declare_eq_ok_iff hnone).mp hbefore
    have hlength : (added.reverse ++ []).length = (declarations before).length := by
      rw [← hadded.1]
      simp
    have hmem : entry ∈ before ++ entry :: after := by simp
    refine defect_of_declare hmem (hkeys entry hmem) (hlength ▸ by simpa using hfew)
      (fun owner hsplit => ?_) hentry
    have happend : declarations (before ++ entry :: after) =
        declarations before ++ declarations (entry :: after) := List.filterMap_append
    rw [hlength, happend, declarations_cons_of_declares hsplit]
    simp
  · cases hreverse

end Declaring

section Delivering

variable {entries : List (String × Value)} {nodes : List Node} {key owner segment : String}
  {e : TreeError}

/-- Why nothing can be brought to an owner under a segment: there is no such object, the segment is
no slot, or something is in the slot. -/
inductive Undeliverable (nodes : List Node) (key owner segment : String) : TreeError → Prop
  | missing (howner : owner ∉ nodes.map Node.path) :
      Undeliverable nodes key owner segment (.missingClassDeclaration key owner)
  | tooLarge (hsegment : ¬ Slot.InRange segment) :
      Undeliverable nodes key owner segment (.positionalIndexTooLarge key segment)
  | occupied (howner : owner ∈ nodes.map Node.path)
      (hfilled : (owner, Slot.ofSegment segment) ∈ (all nodes).flatMap filled) :
      Undeliverable nodes key owner segment
        (.duplicateArgument owner (Slot.ofSegment segment).text)

/-- Where a node at a path cannot take an item, the slot is filled. -/
theorem mem_filled_of_fill {n : Node} {slot : Slot} {item : Item} (hn : n ∈ nodes)
    (h : n.fill slot item = .error e) :
    (n.path, slot) ∈ (all nodes).flatMap filled ∧ e = .duplicateArgument n.path slot.text := by
  obtain ⟨hslot, rfl⟩ := fill_eq_error_iff.mp h
  obtain ⟨entry, hentry, rfl⟩ := List.mem_map.mp hslot
  exact ⟨List.mem_flatMap.mpr ⟨n, mem_all_of_mem hn, List.mem_map.mpr ⟨entry, hentry, rfl⟩⟩, rfl⟩

/-- What cannot be placed is an argument that cannot be brought to its owner. -/
theorem undeliverable_of_place {value : Value} (h : place nodes key value = .error e) :
    ∃ owner segment, assignment? (key, value) = some (owner, segment, value) ∧
      Undeliverable nodes key owner segment e := by
  cases hassigns : assignment? (key, value) with
  | none =>
      rw [place_of_not_assigns hassigns] at h
      cases h
  | some assignment =>
      have hvalue := assignment?_value hassigns
      rw [place_eq hvalue] at h
      refine ⟨_, _, hassigns.symm.trans hvalue, ?_⟩
      rcases modifyAt_eq_error h with ⟨hmissing, rfl⟩ | ⟨n, hn, hpath, hchange⟩
      · exact .missing hmissing
      · rcases Outcome.bind_eq_error_iff.mp hchange with hparse | ⟨slot, hparse, hfill⟩
        · obtain ⟨hsegment, rfl⟩ := Slot.parse_eq_error_iff.mp hparse
          exact .tooLarge hsegment
        · obtain ⟨-, rfl⟩ := Slot.parse_eq_ok_iff.mp hparse
          obtain ⟨hfilled, rfl⟩ := mem_filled_of_fill hn hfill
          rw [hpath] at hfilled ⊢
          exact .occupied (hpath ▸ List.mem_map_of_mem hn) hfilled

/-- A nested object that cannot be attached cannot be brought to its parent. The error names the
class key of the object. -/
theorem undeliverable_of_attach {prefs : Preferences.Building} {path : String}
    (hsplit : splitKey? path = some (owner, segment)) (hmem : path ∈ nodes.map Node.path)
    (h : (attach prefs nodes path).result = .error e) :
    Undeliverable nodes (path ++ "." ++ classSegment) owner segment e := by
  obtain ⟨child, hfind, -⟩ := exists_find? hmem
  -- the parent is looked for without the object, which is no parent of itself
  have hparent : owner ∈ nodes.map Node.path →
      owner ∈ (nodes.filter (·.path ≠ path)).map Node.path := by
    intro howner
    obtain ⟨n, hn, hpath⟩ := List.mem_map.mp howner
    refine List.mem_map.mpr ⟨n, List.mem_filter.mpr ⟨hn, ?_⟩, hpath⟩
    simpa [hpath] using ne_of_splitKey? hsplit
  unfold attach at h
  rw [hsplit, hfind] at h
  simp only [Log.Traced.result_bind, Log.Traced.result_ofExcept] at h
  rcases Outcome.bind_eq_error_iff.mp h with hparse | ⟨slot, hparse, hmove⟩
  · obtain ⟨hsegment, rfl⟩ := Slot.parse_eq_error_iff.mp hparse
    exact .tooLarge hsegment
  · obtain ⟨-, rfl⟩ := Slot.parse_eq_ok_iff.mp hparse
    split at hmove
    next hall =>
      cases hmove
      refine .missing fun howner => ?_
      obtain ⟨n, hn, hpath⟩ := List.mem_map.mp (hparent howner)
      exact of_decide_eq_true (List.all_eq_true.mp hall n hn) hpath
    next =>
      have hmodify : modifyAt owner (·.fill (Slot.ofSegment segment) (.node child))
          (.missingClassDeclaration (path ++ "." ++ classSegment) owner)
          (nodes.filter (·.path ≠ path)) = .error e := by
        split at hmove
        · exact hmove
        · exact hmove
      rcases modifyAt_eq_error hmodify with ⟨hmissing, rfl⟩ | ⟨n, hn, hpath, hfill⟩
      · exact .missing fun howner => hmissing (hparent howner)
      · have hn' := List.mem_of_mem_filter hn
        obtain ⟨hfilled, rfl⟩ := mem_filled_of_fill hn' hfill
        rw [hpath] at hfilled ⊢
        exact .occupied (hpath ▸ List.mem_map_of_mem hn') hfilled

/-- What cannot be brought to its owner is a defect of the entries, if the objects are the declared
ones and what is in the slots is claimed by others. -/
theorem Undeliverable.defect {claimant : Claimant}
    (h : Undeliverable nodes claimant.key owner segment e)
    (hclaims : Claims entries claimant owner segment)
    (howner : owner ∈ nodes.map Node.path ↔ owner ∈ owners entries)
    (hfilled : ∀ slot, (owner, slot) ∈ (all nodes).flatMap filled →
      ∃ other segment', other ≠ claimant ∧ Claims entries other owner segment' ∧
        Slot.ofSegment segment' = slot) : Defect entries e := by
  cases h with
  | missing hmissing =>
      exact .missingClassDeclaration hclaims fun hkey =>
        hmissing (howner.mpr (mem_owners_iff.mpr hkey))
  | tooLarge hsegment =>
      obtain ⟨hdigits, hlarge⟩ := Classical.not_imp.mp hsegment
      exact .positionalIndexTooLarge hclaims hclaims.key_mem hclaims.segment_mem hdigits
        (not_le.mp hlarge)
  | occupied hmem hslot =>
      obtain ⟨other, segment', hne, hother, hsame⟩ := hfilled _ hslot
      exact .duplicateArgument (howner.mp hmem) hne hother hclaims hsame rfl

end Delivering

section Passes

variable {entries before : List (String × Value)} {paths : List String} {owner : String}
  {slot : Slot} {e : TreeError}

/-- The slots of assigned values are claimed by arguments. -/
theorem exists_argument_of_assigned (hsub : before ⊆ entries)
    (h : (owner, slot) ∈ (assigned before).map spot) : ∃ entry ∈ before, ∃ segment,
      Claims entries (.argument entry.1) owner segment ∧ Slot.ofSegment segment = slot := by
  obtain ⟨⟨owner', slot', value⟩, hassigned, hspot⟩ := List.mem_map.mp h
  cases hspot
  obtain ⟨⟨owner', segment, value'⟩, hassignment, heq⟩ := List.mem_map.mp hassigned
  cases heq
  obtain ⟨entry, hentry, hassigns⟩ := List.mem_filterMap.mp hassignment
  obtain ⟨hsplit, hargument, -⟩ := assignment?_eq_some_iff.mp hassigns
  exact ⟨entry, hentry, segment, .argument (hsub hentry) hsplit hargument, rfl⟩

/-- The slots of links are claimed by objects. -/
theorem exists_object_of_link (hpaths : ∀ path ∈ paths, path ∈ owners entries)
    (h : (owner, slot) ∈ (paths.filterMap link?).map spot) : ∃ path ∈ paths, ∃ segment,
      Claims entries (.object path) owner segment ∧ Slot.ofSegment segment = slot := by
  obtain ⟨⟨owner', slot', path'⟩, hlinked, hspot⟩ := List.mem_map.mp h
  cases hspot
  obtain ⟨path, hpath, hlink⟩ := List.mem_filterMap.mp hlinked
  obtain ⟨⟨owner', segment⟩, hsplit, heq⟩ := Option.map_eq_some_iff.mp hlink
  cases heq
  exact ⟨_, hpath, segment, .object (hpaths _ hpath) hsplit, rfl⟩

/-- Values that cannot be placed are a defect of the entries. -/
theorem defect_of_placeAll {declared : List Node} (hdistinct : (entries.map Prod.fst).Nodup)
    (hdeclares : Declares declared (declarations entries))
    (h : placeAll declared entries = .error e) : Defect entries e := by
  obtain ⟨before, entry, after, nodes, rfl, hbefore, hplace⟩ :=
    Outcome.exists_of_foldlM_eq_error h
  obtain ⟨-, hpaths, hholds⟩ := placeAll_eq_ok hbefore
  have hnodes := hholds _ _ (holds_of_declares hdeclares)
  obtain ⟨owner, segment, hassigns, hundeliverable⟩ := undeliverable_of_place hplace
  obtain ⟨hsplit, hargument, -⟩ := assignment?_eq_some_iff.mp hassigns
  have hclaims : Claims (before ++ entry :: after) (.argument entry.1) owner segment :=
    .argument (List.mem_append_right _ List.mem_cons_self) hsplit hargument
  refine Undeliverable.defect hundeliverable hclaims ?_ fun slot hslot => ?_
  · rw [hpaths, paths_of_declares hdeclares]
  · -- nothing is attached yet, so what is in the slot came with an earlier key
    rw [hnodes.filled_perm.mem_iff, List.append_nil, List.map_nil, List.append_nil] at hslot
    obtain ⟨other, hother, segment', hclaims', hsame⟩ :=
      exists_argument_of_assigned (List.subset_append_left before _) hslot
    refine ⟨_, segment', fun heq => ?_, hclaims', hsame⟩
    have hkey : other.1 = entry.1 := Claimant.argument.inj heq
    rw [List.map_append, List.map_cons] at hdistinct
    exact (List.nodup_append.mp hdistinct).2.2 _ (List.mem_map_of_mem hother) _
      List.mem_cons_self hkey

/-- Attaching is one run over the paths. -/
theorem attachAll_result (prefs : Preferences.Building) (nodes : List Node) (paths : List String) :
    (attachAll prefs nodes paths).result =
      paths.foldlM (fun nodes path => (attach prefs nodes path).result) nodes := by
  induction paths generalizing nodes with
  | nil => rfl
  | cons path rest ih =>
      rw [attachAll, Log.Traced.result_bind, List.foldlM_cons]
      exact congrArg _ (funext ih)

/-- Objects that cannot be attached are a defect of the entries. -/
theorem defect_of_attachAll {prefs : Preferences.Building} {placed : List Node}
    {classes : List (String × String)} (hdistinct : (owners entries).Nodup)
    (hpaths : placed.map Node.path = owners entries)
    (hholds : Holds placed classes (assigned entries) [])
    (h : (attachAll prefs placed (nestedPaths placed)).result = .error e) : Defect entries e := by
  rw [attachAll_result] at h
  obtain ⟨before, path, after, nodes, hbefore, hrun, hattach⟩ :=
    Outcome.exists_of_foldlM_eq_error h
  rw [← attachAll_result] at hrun
  have hmovable := movable_nestedPaths (hpaths ▸ hdistinct)
  have hdeepest := nestedPaths_deepest placed
  rw [← hbefore] at hmovable hdeepest
  have hmem : path ∈ placed.map Node.path :=
    hmovable.mem path (List.mem_append_right _ List.mem_cons_self)
  obtain ⟨owner, segment, hsplit⟩ :=
    exists_splitKey? (hmovable.nested path (List.mem_append_right _ List.mem_cons_self))
  obtain ⟨-, hleft, hkeep⟩ := attachAll_eq_ok hmovable.left hrun
  have hnodes := hkeep _ _ hholds
  have hnew : path ∉ before := fun hpath =>
    (List.nodup_append.mp hmovable.nodup).2.2 _ hpath _ List.mem_cons_self rfl
  -- what is attached already is at least as deep as the object, and its parent is not
  have howner : owner ∉ before := by
    intro hattached
    have hdeeper := (List.pairwise_append.mp hdeepest).2.2 _ hattached _ List.mem_cons_self
    rw [nesting_of_splitKey? hsplit] at hdeeper
    omega
  have hundeliverable := undeliverable_of_attach hsplit
    (hleft ▸ List.mem_filter.mpr ⟨hmem, decide_eq_true hnew⟩) hattach
  have hclaims : Claims entries (.object path) owner segment := .object (hpaths ▸ hmem) hsplit
  refine Undeliverable.defect hundeliverable hclaims ?_ fun slot hslot => ?_
  · rw [hleft, hpaths, List.mem_filter, and_iff_left (decide_eq_true howner)]
  · rw [hnodes.filled_perm.mem_iff, List.append_nil, List.mem_append] at hslot
    rcases hslot with hvalue | hlink
    · obtain ⟨entry, -, segment', hclaims', hsame⟩ :=
        exists_argument_of_assigned (List.Subset.refl _) hvalue
      exact ⟨.argument entry.1, segment', nofun, hclaims', hsame⟩
    · obtain ⟨other, hother, segment', hclaims', hsame⟩ := exists_object_of_link
        (fun path hpath => hpaths ▸ hmovable.mem path (List.mem_append_left _ hpath)) hlink
      refine ⟨_, segment', fun heq => ?_, hclaims', hsame⟩
      exact hnew (Claimant.object.inj heq ▸ hother)

end Passes

section Build

variable {prefs : Preferences.Building} {c : Arguments} {e : TreeError}

/-- A forest that is not built fails in one of the three passes. -/
theorem build_result_eq_error (h : (build prefs c).result = .error e) :
    declareAll c.toList = .error e ∨ ∃ declared, declareAll c.toList = .ok declared ∧
      (placeAll declared c.toList = .error e ∨ ∃ placed, placeAll declared c.toList = .ok placed ∧
        (attachAll prefs placed (nestedPaths placed)).result = .error e) := by
  rw [build_result, ofCompound, Log.Traced.result_bind] at h
  rcases Outcome.bind_eq_error_iff.mp h with hdeclare | ⟨declared, hdeclared, h⟩
  · exact Or.inl hdeclare
  rw [Log.Traced.result_bind] at h
  rcases Outcome.bind_eq_error_iff.mp h with hplace | ⟨placed, hplaced, h⟩
  · exact Or.inr ⟨declared, hdeclared, Or.inl hplace⟩
  rw [Log.Traced.result_bind] at h
  rcases Outcome.bind_eq_error_iff.mp h with hattach | ⟨roots, -, hroots⟩
  · exact Or.inr ⟨declared, hdeclared, Or.inr ⟨placed, hplaced, hattach⟩⟩
  · cases hroots

/-- Compound entries are refused exactly if they have a defect, and then for one that they have.
What claims slots is only blamed where no declaration has a defect. -/
theorem build_error_defect (prefs : Preferences.Building)
    (hkeys : ∀ key ∈ c.keys, isCompoundKey key = true) :
    (∀ e, (build prefs c).result = .error e → Defect c.toList e ∧
      (¬ e.OfDeclaration → ∀ e', e'.OfDeclaration → ¬ Defect c.toList e')) ∧
      ((∃ e, Defect c.toList e) → ∃ e, (build prefs c).result = .error e) := by
  constructor
  · intro e h
    rcases build_result_eq_error h with hdeclare | ⟨declared, hdeclared, h⟩
    · have hentries : ∀ entry ∈ c.toList, isCompoundKey entry.1 = true :=
        fun entry hentry => hkeys entry.1 (List.mem_map_of_mem hentry)
      obtain ⟨hdefect, hdeclaration⟩ := defect_of_declareAll hentries hdeclare
      exact ⟨hdefect, fun hnot => absurd hdeclaration hnot⟩
    · obtain ⟨hdeclarable, hfew, hdeclares⟩ := declareAll_eq_ok_iff.mp hdeclared
      refine ⟨?_, fun _ e' he' =>
        not_defect_of_declaration hdeclarable.segments hdeclarable.classes hfew he'⟩
      rcases h with hplace | ⟨placed, hplaced, hattach⟩
      · exact defect_of_placeAll c.keys_nodup hdeclares hplace
      · obtain ⟨-, hpaths, hholds⟩ := placeAll_eq_ok hplaced
        have hplacedHolds := hholds _ _ (holds_of_declares hdeclares)
        rw [List.append_nil] at hplacedHolds
        exact defect_of_attachAll (owners_nodup c.keys_nodup)
          (hpaths.trans (paths_of_declares hdeclares)) hplacedHolds hattach
  · rintro ⟨e, hdefect⟩
    cases hresult : (build prefs c).result with
    | error e' => exact ⟨e', rfl⟩
    | ok f => exact absurd hdefect ((acceptable_of_build hresult).not_defect e)

def faultyEntries : List (String × Value) :=
  [("net.__class__", .str "Net"), ("net.0", .int 3), ("net.00.__class__", .str "Head"),
    ("net.body.cell.__class__", .str "Cell")]

/-- A value in the slot of an object, and an object whose parent is missing: the missing parent is
reported. -/
theorem build_error_defect_faulty :
    (∀ key ∈ (Arguments.ofList faultyEntries).keys, isCompoundKey key = true) ∧
      (build {} (Arguments.ofList faultyEntries)).result =
        .error (.missingClassDeclaration "net.body.cell.__class__" "net.body") ∧
      Defect (Arguments.ofList faultyEntries).toList
        (.missingClassDeclaration "net.body.cell.__class__" "net.body") ∧
      ∀ e, e.OfDeclaration → ¬ Defect (Arguments.ofList faultyEntries).toList e := by
  have hentries : (Arguments.ofList faultyEntries).toList = faultyEntries :=
    Arguments.toList_ofList (by decide)
  have hkeys : ∀ key ∈ (Arguments.ofList faultyEntries).keys, isCompoundKey key = true := by
    rw [Arguments.keys, hentries]
    decide
  let placed : List Node := [.mk "net" "Net" [(.positional 0, .value (.int 3))],
    .new "net.00" "Head", .new "net.body.cell" "Cell"]
  have hdeeper : ¬ nesting "net.body.cell" ≤ nesting "net.00" := by decide +kernel
  have hnested : nestedPaths placed = ["net.body.cell", "net.00"] := by
    have hfilter : (placed.map Node.path).filter isCompoundKey = ["net.00", "net.body.cell"] := by
      decide +kernel
    rw [nestedPaths, hfilter]
    simp [List.mergeSort, List.MergeSort.Internal.splitInTwo, hdeeper]
  have hresult : (build {} (Arguments.ofList faultyEntries)).result =
      .error (.missingClassDeclaration "net.body.cell.__class__" "net.body") := by
    rw [build_result, ofCompound, hentries]
    change ((attachAll {} placed (nestedPaths placed)) >>= _).result = _
    rw [hnested]
    rfl
  obtain ⟨hdefect, hno⟩ := (build_error_defect {} hkeys).1 _ hresult
  exact ⟨hkeys, hresult, hdefect, hno not_false⟩

end Build

end Forest

end Hyperparams

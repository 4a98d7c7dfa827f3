import Hyperparams.Proofs.Keywords
import Hyperparams.Proofs.Tree.Relocating

/-!
# Command lines below a root

Any pairs can be moved below a root of some class: every key gets the name of the root in front.
They are lowered exactly if they are without the root, where a key that is also a root is in
conflict; below it there are then two items for one slot. What were plain values and roots are in
the slots of the root.
-/

namespace Hyperparams

/-- A class at a root, and the pairs below the root. -/
def pairsBelow (root classRef : String) (pairs : List (String × String)) :
    List (String × String) :=
  (keyUnder root classSegment, classRef) :: pairs.map fun pair => (keyUnder root pair.1, pair.2)

/-- Pairs that can be moved below a root: no plain key is the class of the root, and no key begins
with a position. -/
structure NamedPairs (pairs : List (String × String)) : Prop where
  argument : ∀ pair ∈ pairs, pair.1 ≠ classSegment
  named : ∀ pair ∈ pairs, Decimal.isDigits (keyRoot pair.1).toList = false

/-- Pairs within all limits of a command line. -/
structure WithinLimits (pairs : List (String × String)) : Prop where
  tokens : 2 * pairs.length ≤ Limits.tokenCount
  keys : ∀ pair ∈ pairs, pair.1.utf8ByteSize ≤ Limits.keyLength
  values : ∀ pair ∈ pairs, pair.2.utf8ByteSize ≤ Limits.valueLength
  nesting : ∀ owner ∈ Forest.owners (inferred pairs),
    (keySegments owner).length ≤ Limits.nestingDepth
  objects : (Forest.owners (inferred pairs)).dedup.length ≤ Limits.objectCount

/-- The plain keys among some pairs, each with the value that came last for it. -/
def plainEntries (pairs : List (String × String)) : List (String × Value) :=
  (Arguments.ofList (inferred pairs)).toList.filter fun entry => !isCompoundKey entry.1

section Pairs

open Forest

variable {root classRef : String} {pairs : List (String × String)}

/-- The plain and the compound entries are all arguments. -/
theorem entries_perm (pairs : List (String × String)) :
    (plainEntries pairs ++ compoundEntries pairs).Perm
      (Arguments.ofList (inferred pairs)).toList :=
  List.perm_append_comm.trans (List.filter_append_perm _ _)

theorem exists_pair_of_mem {entry : String × Value}
    (h : entry ∈ plainEntries pairs ++ compoundEntries pairs) :
    ∃ pair ∈ pairs, pair.1 = entry.1 := by
  have hkey := List.mem_map_of_mem (f := Prod.fst) ((entries_perm pairs).mem_iff.mp h)
  exact List.mem_map.mp ((mem_keys_inferred rfl entry.1).mp hkey)

theorem NamedPairs.namable (h : NamedPairs pairs) :
    Namable (plainEntries pairs) (compoundEntries pairs) where
  single entry hentry := by simpa using (List.mem_filter.mp hentry).2
  several entry hentry := (List.mem_filter.mp hentry).2
  argument entry hentry := by
    obtain ⟨pair, hpair, hkey⟩ := exists_pair_of_mem (List.mem_append_left _ hentry)
    exact hkey ▸ h.argument pair hpair
  named entry hentry := by
    obtain ⟨pair, hpair, hkey⟩ := exists_pair_of_mem hentry
    exact hkey ▸ h.named pair hpair
  distinct := ((entries_perm pairs).map Prod.fst).nodup_iff.mpr (Arguments.keys_nodup _)

/-- Below a root, pairs stand for its class and for their entries with longer keys. -/
theorem inferred_pairsBelow (hclass : Value.infer classRef = .str classRef) (root : String)
    (pairs : List (String × String)) :
    inferred (pairsBelow root classRef pairs) = (keyUnder root classSegment, .str classRef) ::
      (inferred pairs).map fun entry => (keyUnder root entry.1, entry.2) := by
  unfold inferred pairsBelow
  rw [List.map_cons, List.map_map, List.map_map]
  exact congrArg₂ List.cons (congrArg (keyUnder root classSegment, ·) hclass) rfl

/-- The entries of pairs below a root are those of the pairs, below the root. -/
theorem toList_pairsBelow_perm (h : NamedPairs pairs)
    (hclass : Value.infer classRef = .str classRef) (root : String) :
    (Arguments.ofList (inferred (pairsBelow root classRef pairs))).toList.Perm
      (entriesBelow root classRef (plainEntries pairs) (compoundEntries pairs)) := by
  have hdistinct := h.namable.distinct
  have hkeys : ((entriesBelow root classRef (plainEntries pairs) (compoundEntries pairs)).map
      Prod.fst).Nodup := by
    have hother : classSegment ∉ (plainEntries pairs ++ compoundEntries pairs).map Prod.fst := by
      intro hmem
      obtain ⟨entry, hentry, hkey⟩ := List.mem_map.mp hmem
      obtain ⟨pair, hpair, hpairKey⟩ := exists_pair_of_mem hentry
      exact h.argument pair hpair (hpairKey.trans hkey)
    have hbelow := (List.nodup_cons.mpr ⟨hother, hdistinct⟩).map (keyUnder_injective root)
    rw [List.map_cons, List.map_map] at hbelow
    unfold entriesBelow
    rw [List.map_cons, List.map_map]
    exact hbelow
  have hsame : ∀ key, (Arguments.ofList (inferred pairs)).get? key =
      (Arguments.ofList (plainEntries pairs ++ compoundEntries pairs)).get? key := by
    rw [← Arguments.toList_perm_iff, Arguments.toList_ofList hdistinct]
    exact (entries_perm pairs).symm
  -- the keys are in different orders, so the tables are compared by what they bind
  rw [← Arguments.toList_ofList hkeys, Arguments.toList_perm_iff]
  intro key
  rw [inferred_pairsBelow hclass, entriesBelow, Arguments.get?_ofList_cons,
    Arguments.get?_ofList_cons, Arguments.get?_ofList_map_congr (keyUnder_injective root) hsame]

theorem plainEntries_pairsBelow (root classRef : String) (pairs : List (String × String)) :
    plainEntries (pairsBelow root classRef pairs) = [] := by
  refine List.filter_eq_nil_iff.mpr fun entry hentry => ?_
  have hkey := (mem_keys_inferred rfl entry.1).mp (List.mem_map_of_mem (f := Prod.fst) hentry)
  obtain ⟨pair, hpair, heq⟩ := List.mem_map.mp hkey
  rw [← heq]
  rcases List.mem_cons.mp hpair with rfl | hmoved
  · simp [isCompoundKey_keyUnder]
  · obtain ⟨pair', -, rfl⟩ := List.mem_map.mp hmoved
    simp [isCompoundKey_keyUnder]

/-- The entries below a root are all compound. -/
theorem compoundEntries_pairsBelow_perm (h : NamedPairs pairs)
    (hclass : Value.infer classRef = .str classRef) (root : String) :
    (compoundEntries (pairsBelow root classRef pairs)).Perm
      (entriesBelow root classRef (plainEntries pairs) (compoundEntries pairs)) := by
  have hall := entries_perm (pairsBelow root classRef pairs)
  rw [plainEntries_pairsBelow, List.nil_append] at hall
  exact hall.trans (toList_pairsBelow_perm h hclass root)

end Pairs

section Limits

open Forest

variable {root classRef : String} {pairs : List (String × String)}

/-- Within the limits only empty keys are refused. -/
theorem WithinLimits.tokenizable_iff (h : WithinLimits pairs) :
    Tokenizable pairs ↔ ∀ pair ∈ pairs, pair.1 ≠ "" := by
  refine ⟨fun htokens pair hpair => (htokens.2 pair hpair).nonempty, fun hnonempty => ?_⟩
  exact ⟨h.tokens, fun pair hpair => ⟨hnonempty pair hpair, h.keys pair hpair, h.values pair hpair⟩⟩

/-- Without the root there are fewer and shorter tokens. -/
theorem WithinLimits.tokenizable_of_pairsBelow
    (h : WithinLimits (pairsBelow root classRef pairs)) :
    Tokenizable pairs ↔ ∀ pair ∈ pairs, pair.1 ≠ "" := by
  refine ⟨fun htokens pair hpair => (htokens.2 pair hpair).nonempty, fun hnonempty => ⟨?_, ?_⟩⟩
  · have htokens := h.tokens
    rw [pairsBelow, List.length_cons, List.length_map] at htokens
    omega
  · intro pair hpair
    have hmem : (keyUnder root pair.1, pair.2) ∈ pairsBelow root classRef pairs :=
      List.mem_cons_of_mem _ (List.mem_map_of_mem hpair)
    have hkey : (keyUnder root pair.1).utf8ByteSize ≤ Limits.keyLength := h.keys _ hmem
    rw [keyUnder, String.utf8ByteSize_append] at hkey
    exact ⟨hnonempty pair hpair, by omega, h.values (keyUnder root pair.1, pair.2) hmem⟩

theorem WithinLimits.tokenizable_pairsBelow (h : WithinLimits (pairsBelow root classRef pairs)) :
    Tokenizable (pairsBelow root classRef pairs) := by
  refine h.tokenizable_iff.mpr fun pair hpair hempty => ?_
  have hcompound : isCompoundKey pair.1 = true := by
    rcases List.mem_cons.mp hpair with rfl | hmoved
    · exact isCompoundKey_keyUnder root classSegment
    · obtain ⟨pair', -, rfl⟩ := List.mem_map.mp hmoved
      exact isCompoundKey_keyUnder root pair'.1
  rw [hempty] at hcompound
  exact absurd hcompound (by decide)

/-- An empty key is a plain one. -/
theorem forall_nonempty_iff :
    (∀ pair ∈ pairs, pair.1 ≠ "") ↔ ∀ entry ∈ plainEntries pairs, entry.1 ≠ "" := by
  constructor
  · intro hpairs entry hentry
    obtain ⟨pair, hpair, hkey⟩ := exists_pair_of_mem (List.mem_append_left _ hentry)
    exact hkey ▸ hpairs pair hpair
  · intro hentries pair hpair hempty
    have hkey := (mem_keys_inferred rfl pair.1).mpr (List.mem_map_of_mem hpair)
    obtain ⟨entry, hentry, heq⟩ := List.mem_map.mp hkey
    refine hentries entry (List.mem_filter.mpr ⟨hentry, ?_⟩) (heq.trans hempty)
    rw [heq, hempty]
    decide

/-- Below a root, the objects that pairs declare are within the limits. -/
theorem WithinLimits.declared (h : WithinLimits (pairsBelow root classRef pairs))
    (hnamed : NamedPairs pairs) (hclass : Value.infer classRef = .str classRef) :
    (∀ owner ∈ owners (compoundEntries pairs),
      (keySegments (keyUnder root owner)).length ≤ Limits.nestingDepth) ∧
    (owners (compoundEntries pairs)).length + 1 ≤ Limits.objectCount := by
  -- pairs may give the class of an object more than once, and a table has it once
  have howners : ∀ owner, owner ∈ root :: (owners (compoundEntries pairs)).map (keyUnder root) ↔
      owner ∈ owners (inferred (pairsBelow root classRef pairs)) := by
    intro owner
    rw [← owners_entriesBelow hnamed.namable root classRef, mem_owners_iff, mem_owners_iff,
      ← ((toList_pairsBelow_perm hnamed hclass root).map Prod.fst).mem_iff]
    exact (mem_keys_inferred rfl _).trans (by unfold inferred; rw [List.map_map]; rfl)
  have hdistinct : (root :: (owners (compoundEntries pairs)).map (keyUnder root)).Nodup := by
    rw [← owners_entriesBelow hnamed.namable root classRef]
    exact owners_nodup (((toList_pairsBelow_perm hnamed hclass root).map Prod.fst).nodup_iff.mp
      (Arguments.keys_nodup _))
  refine ⟨fun owner howner => ?_, ?_⟩
  · exact h.nesting _ ((howners _).mp (List.mem_cons_of_mem _ (List.mem_map_of_mem howner)))
  · have hobjects := h.objects
    rwa [← length_eq_length_dedup hdistinct howners, List.length_cons, List.length_map] at hobjects

end Limits

section Lowering

open Forest

variable {prefs : Preferences} {elapsed elapsed' : String} {pairs : List (String × String)}
  {l : Lowered} {root classRef : String}

/-- A lowered command line has the plain entries, and a forest of the others. -/
theorem lowered_of_lower (h : (lower prefs elapsed (flagTokens pairs)).result = .ok l) :
    l.plain.toList = plainEntries pairs ∧ ∃ c : Arguments, c.toList = compoundEntries pairs ∧
      (Forest.build prefs.building c).result = .ok l.forest := by
  obtain ⟨t, forest, ht, -, hforest, rfl⟩ := lower_result_eq_ok_iff.mp h
  have hargs := (tokenize_flagTokens_ok_iff.mp ⟨t, ht, rfl⟩).2
  refine ⟨?_, _, ?_, hforest⟩
  · unfold Lowered.ofStages
    rw [Partition.toList_plain, hargs]
    rfl
  · rw [Partition.toList_compound, hargs]
    rfl

/-- Acceptable entries are in conflict if a plain key names a root. -/
theorem conflict?_eq_none_iff_disjoint {args : Arguments}
    (h : args = Arguments.ofList (inferred pairs))
    (hacceptable : Acceptable (compoundEntries pairs)) :
    (Partition.ofArguments args).conflict? = none ↔
      ((plainEntries pairs).map Prod.fst).Disjoint (rootOwners (compoundEntries pairs)) := by
  have hplain : (Partition.ofArguments args).plain.keys = (plainEntries pairs).map Prod.fst := by
    rw [Arguments.keys, Partition.toList_plain, h]
    rfl
  have hroots : (Partition.ofArguments args).roots =
      ((compoundEntries pairs).map Prod.fst).map keyRoot := by
    rw [Partition.roots, Arguments.keys, Partition.toList_compound, h]
    rfl
  have hcompound : ∀ entry ∈ compoundEntries pairs, isCompoundKey entry.1 = true :=
    fun entry hentry => (List.mem_filter.mp hentry).2
  rw [Partition.conflict?_eq_none_iff, hplain, hroots]
  simp only [← hacceptable.mem_rootOwners_iff hcompound]
  rfl

/-- Pairs are lowered if they are taken, describe a forest and have no plain key that is a root. -/
theorem exists_lower_iff (hreject : prefs.building.rejectConflictingKeys = true) :
    (∃ l, (lower prefs elapsed (flagTokens pairs)).result = .ok l) ↔
      Tokenizable pairs ∧ Acceptable (compoundEntries pairs) ∧
        ((plainEntries pairs).map Prod.fst).Disjoint (rootOwners (compoundEntries pairs)) := by
  constructor
  · rintro ⟨l, hl⟩
    obtain ⟨t, forest, ht, hfree, hforest, rfl⟩ := lower_result_eq_ok_iff.mp hl
    obtain ⟨htokens, hargs⟩ := tokenize_flagTokens_ok_iff.mp ⟨t, ht, rfl⟩
    have hacceptable := acceptable_of_build hforest
    rw [Partition.toList_compound, hargs] at hacceptable
    exact ⟨htokens, hacceptable,
      (conflict?_eq_none_iff_disjoint hargs hacceptable).mp (hfree hreject)⟩
  · rintro ⟨htokens, hacceptable, hdisjoint⟩
    obtain ⟨t, ht, hargs⟩ := tokenize_flagTokens_ok_iff.mpr ⟨htokens, rfl⟩
    have hentries : (Partition.ofArguments t.args).compound.toList = compoundEntries pairs := by
      rw [Partition.toList_compound, hargs]
      rfl
    obtain ⟨forest, hforest⟩ : ∃ f, (Forest.build prefs.building
        (Partition.ofArguments t.args).compound).result = .ok f :=
      exists_build (fun key => Partition.isCompoundKey_of_mem) (hentries ▸ hacceptable)
    exact ⟨_, lower_result_eq_ok_iff.mpr ⟨t, forest, ht,
      fun _ => (conflict?_eq_none_iff_disjoint hargs hacceptable).mpr hdisjoint, hforest, rfl⟩⟩

/-- Pairs below a root are lowered exactly if they are without it. -/
theorem exists_lower_pairsBelow_iff (hreject : prefs.building.rejectConflictingKeys = true)
    (hnamed : NamedPairs pairs) (hclass : Value.infer classRef = .str classRef)
    (hroot : isCompoundKey root = false) (hname : root ≠ "")
    (hlimits : WithinLimits (pairsBelow root classRef pairs)) :
    (∃ l, (lower prefs elapsed' (flagTokens (pairsBelow root classRef pairs))).result = .ok l) ↔
      ∃ l, (lower prefs elapsed (flagTokens pairs)).result = .ok l := by
  obtain ⟨hdepth, hfew⟩ := hlimits.declared hnamed hclass
  have hperm := compoundEntries_pairsBelow_perm hnamed hclass root
  have hacceptable : Acceptable (compoundEntries (pairsBelow root classRef pairs)) ↔
      Acceptable (entriesBelow root classRef (plainEntries pairs) (compoundEntries pairs)) :=
    ⟨fun h => h.of_perm hperm, fun h => h.of_perm hperm.symm⟩
  rw [exists_lower_iff hreject, exists_lower_iff hreject, plainEntries_pairsBelow, hacceptable,
    acceptable_entriesBelow_iff hnamed.namable hroot hname classRef hdepth hfew,
    hlimits.tokenizable_of_pairsBelow, forall_nonempty_iff,
    and_iff_right hlimits.tokenizable_pairsBelow, List.map_nil,
    and_iff_left (List.disjoint_nil_left _)]
  exact and_left_comm

/-- Pairs below a root are refused, as they are without it, or give the root that gathers what they
give without it. -/
theorem agree_lower_pairsBelow (hreject : prefs.building.rejectConflictingKeys = true)
    (hnamed : NamedPairs pairs) (hclass : Value.infer classRef = .str classRef)
    (hroot : isCompoundKey root = false) (hname : root ≠ "")
    (hlimits : WithinLimits (pairsBelow root classRef pairs)) :
    Outcome.Agree (fun l l' : Lowered => l'.plain.toList = [] ∧
        l'.forest.roots = [.gathering root classRef l.plain.toList l.forest.roots] ∧
        (l.plain.keys ++ l.forest.roots.map Node.path).Nodup)
      (lower prefs elapsed (flagTokens pairs)).result
      (lower prefs elapsed' (flagTokens (pairsBelow root classRef pairs))).result := by
  refine Outcome.Agree.of_ok_iff
    (exists_lower_pairsBelow_iff hreject hnamed hclass hroot hname hlimits).symm
    fun l l' hl hl' => ?_
  obtain ⟨hplain, c, hc, hforest⟩ := lowered_of_lower hl
  obtain ⟨hplain', c', hc', hforest'⟩ := lowered_of_lower hl'
  obtain ⟨-, -, hdisjoint⟩ := (exists_lower_iff hreject).mp ⟨l, hl⟩
  refine ⟨hplain'.trans (plainEntries_pairsBelow root classRef pairs), ?_, ?_⟩
  · rw [hplain]
    refine roots_of_build_entriesBelow hforest hforest' ?_ ?_ hroot ?_
    · rw [hc, hc']
      exact compoundEntries_pairsBelow_perm hnamed hclass root
    · exact hc ▸ hnamed.namable
    · exact hc ▸ hdisjoint
  · obtain ⟨classes, hbuilt⟩ := exists_built hforest
    have hroots : (rootOwners c.toList).Nodup := (owners_nodup c.keys_nodup).filter _
    rw [hbuilt.roots_eq]
    refine l.plain.keys_nodup.append hroots ?_
    rw [Arguments.keys, hplain, hc]
    exact hdisjoint

end Lowering

end Hyperparams

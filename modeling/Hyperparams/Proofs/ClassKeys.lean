import Hyperparams.Proofs.Preferences
import Hyperparams.Proofs.Reporting
import Hyperparams.Text.Boundary

/-!
# The two halves of arguments, and keys that declare classes

Arguments are divided into plain and compound ones without loss. The owner in a key that declares a
class can be cut off by counting bytes, since the separator and the class segment have as many in
every key. The cut fails for the class segment alone, which is no compound key.
-/

namespace Hyperparams

/-- What is left of a key without as many bytes as a separator and the class segment have. -/
def cutOwner? (key : String) : Option String :=
  if classSegment.utf8ByteSize + 1 ≤ key.utf8ByteSize then
    takeBytes? (key.utf8ByteSize - classSegment.utf8ByteSize - 1) key
  else none

section Cutting

variable {key owner : String}

/-- The owner is what is cut off its class key. -/
theorem cutOwner?_join (owner : String) :
    cutOwner? (owner ++ "." ++ classSegment) = some owner := by
  have hdot : ".".utf8ByteSize = 1 := rfl
  have hsize : (owner ++ "." ++ classSegment).utf8ByteSize =
      owner.utf8ByteSize + 1 + classSegment.utf8ByteSize := by
    rw [String.utf8ByteSize_append, String.utf8ByteSize_append, hdot]
  have hrest : owner.utf8ByteSize + 1 + classSegment.utf8ByteSize - classSegment.utf8ByteSize - 1 =
      owner.utf8ByteSize := by omega
  rw [cutOwner?, hsize, if_pos (by omega), hrest, String.append_assoc]
  exact takeBytes?_append owner ("." ++ classSegment)

/-- In a key whose last segment is that of classes, cutting by bytes is splitting at the last
separator. -/
theorem cutOwner?_eq (h : (keySegments key).getLast? = some classSegment) :
    cutOwner? key = (splitKey? key).map Prod.fst := by
  cases hsplit : splitKey? key with
  | none =>
      rw [keySegments_of_not_compound (splitKey?_eq_none_iff.mp hsplit)] at h
      cases h
      rfl
  | some parts =>
      obtain ⟨owner, segment⟩ := parts
      obtain ⟨rfl, hsegment⟩ := splitKey?_eq_some_iff.mp hsplit
      rw [keySegments_join hsegment, List.getLast?_concat] at h
      cases h
      exact cutOwner?_join owner

end Cutting

/-- Whether the owner is cut off a key: no segment is empty, and the last one is that of classes. -/
def DeclaresClass (key : String) : Prop :=
  "" ∉ keySegments key ∧ (keySegments key).getLast? = some classSegment

/-- The owner that is cut off a key is what the key declares, unless it is nested too deep. -/
structure CutsOff (key owner : String) : Prop where
  cut : cutOwner? key = some owner
  nonempty : owner ≠ ""
  whole : owner ++ "." ++ classSegment = key
  declared : Forest.declaredOwner? key =
    if Limits.nestingDepth < (keySegments key).length - 1 then
      .error (.nestingTooDeep owner ((keySegments key).length - 1))
    else .ok (some owner)

/-- A key that declares a class can be cut in front of its class segment. -/
theorem exists_cutsOff {key : String} (hcompound : isCompoundKey key = true)
    (h : DeclaresClass key) : ∃ owner, CutsOff key owner := by
  obtain ⟨hsegments, hlast⟩ := h
  obtain ⟨owner, segment, hsplit⟩ := exists_splitKey? hcompound
  obtain ⟨hkey, hsegment⟩ := splitKey?_eq_some_iff.mp hsplit
  have hclass : segment = classSegment := by
    rw [hkey, keySegments_join hsegment, List.getLast?_concat] at hlast
    exact Option.some.inj hlast
  subst hclass
  refine ⟨owner, by rw [cutOwner?_eq hlast, hsplit]; rfl, ?_, hkey.symm, ?_⟩
  · rintro rfl
    exact hsegments (by rw [hkey]; decide)
  · unfold Forest.declaredOwner?
    dsimp only
    rw [if_neg (mt Forest.any_isEmpty_iff.mp hsegments), if_neg (not_not_intro hlast), hsplit]

/-- Two halves of some arguments: nothing is lost, comes twice or changes, and each half keeps the
order. -/
structure Partition.Divides (args : Arguments) (p : Partition) : Prop where
  plain : p.plain.toList = args.toList.filter fun entry => keySeparator ∉ entry.1.toList
  compound : p.compound.toList = args.toList.filter fun entry => keySeparator ∈ entry.1.toList
  complete : (p.plain.toList ++ p.compound.toList).Perm args.toList

namespace Partition

variable {args : Arguments}

/-- The halves of some arguments divide them. -/
theorem divides_ofArguments (args : Arguments) : Divides args (ofArguments args) where
  plain := by
    rw [toList_plain]
    simp [isCompoundKey]
  compound := by
    rw [toList_compound]
    simp [isCompoundKey]
  complete := by
    rw [toList_plain, toList_compound]
    exact List.perm_append_comm.trans (List.filter_append_perm _ _)

theorem check_result_eq_error_iff {p : Partition} {key : String} :
    p.check.result = .error (.conflictingKeys key) ↔ p.conflict? = some key := by
  unfold check
  cases p.conflict? <;> simp

/-- There is no conflict when no plain key shadows an object. -/
theorem conflict?_eq_none_iff_free :
    (ofArguments args).conflict? = none ↔ ∀ key ∈ args.keys, ¬ Shadows args.keys key := by
  constructor
  · intro hnone key hkey hshadows
    obtain ⟨first, hfirst⟩ := exists_conflict? hkey hshadows
    cases hnone.symm.trans hfirst
  · intro hfree
    rw [Option.eq_none_iff_forall_ne_some]
    intro key hkey
    obtain ⟨before, after, hkeys, hshadows, -⟩ := conflict?_eq_some_iff.mp hkey
    exact hfree key (hkeys ▸ List.mem_append_right before List.mem_cons_self) hshadows

/-- The compound half has no class segment alone, so every class has an object. -/
theorem build_compound_ne (prefs : Preferences.Building) (args : Arguments) :
    (Forest.build prefs (ofArguments args).compound).result ≠ .error .classWithoutOwner := by
  have hkeys : ∀ entry ∈ (ofArguments args).compound.toList, isCompoundKey entry.1 = true :=
    fun entry hentry => isCompoundKey_of_mem (List.mem_map_of_mem hentry)
  rw [Forest.build_result]
  exact fun h => (Forest.withholds_ofCompound prefs hkeys).reportable _ h rfl

/-- What lowering hands to the builder never declares a class without an owner. -/
theorem lower_ne (prefs : Preferences) (elapsed : String) (tokens : List String) :
    (lower prefs elapsed tokens).result ≠ .error (.tree .classWithoutOwner) := by
  intro h
  rw [Lowered.lower_result] at h
  rcases Outcome.bind_eq_error_iff.mp h with htokens | ⟨t, -, hstages⟩
  · obtain ⟨e, -, he⟩ := Outcome.mapError_eq_error_iff.mp htokens
    cases he
  · unfold Lowered.ofTokenized at hstages
    split at hstages
    next => cases hstages
    next =>
      obtain ⟨e, hbuild, he⟩ :=
        Outcome.mapError_eq_error_iff.mp (Outcome.map_eq_error_iff.mp hstages)
      cases he
      exact build_compound_ne {} t.args hbuild

/-- Arguments are divided by whether their key has a separator, and refused exactly if a plain key
is the first segment of a compound one. The first such plain key is named. In the compound half
every owner that is cut off a class key is there and is not empty, so nothing can go wrong with the
cut when tokens are lowered. -/
theorem ofArguments_divides (args : Arguments) :
    Divides args (ofArguments args) ∧
      ((ofArguments args).check.result = .ok () ↔ ∀ key ∈ args.keys, ¬ Shadows args.keys key) ∧
      (∀ key, (ofArguments args).check.result = .error (.conflictingKeys key) ↔
        FirstShadow args.keys key) ∧
      (∀ key ∈ (ofArguments args).compound.keys, DeclaresClass key → ∃ owner, CutsOff key owner) ∧
      (∀ prefs, (Forest.build prefs (ofArguments args).compound).result ≠
        .error .classWithoutOwner) ∧
      ∀ prefs elapsed tokens,
        (lower prefs elapsed tokens).result ≠ .error (.tree .classWithoutOwner) := by
  refine ⟨divides_ofArguments args, ?_, fun key => ?_, fun key hkey => ?_,
    fun prefs => build_compound_ne prefs args, lower_ne⟩
  · rw [check_result_eq_ok_iff, conflict?_eq_none_iff_free]
  · rw [check_result_eq_error_iff, conflict?_eq_some_iff]
  · exact exists_cutsOff (isCompoundKey_of_mem hkey)

end Partition

end Hyperparams

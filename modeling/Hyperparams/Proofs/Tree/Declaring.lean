import Hyperparams.Proofs.Outcomes
import Hyperparams.Proofs.Tree.Entries

/-!
# Declaring objects

All objects are declared, in order and without arguments, exactly when every key is well formed,
every declaration names a class for an owner that is not nested too deep, and there are not too many
declarations.
-/

namespace Hyperparams

namespace Forest

/-- Which entries may stand beside each other in a declaration of objects. -/
structure Declarable (entries : List (String × Value)) : Prop where
  /-- No key has an empty segment. -/
  segments : ∀ entry ∈ entries, "" ∉ keySegments entry.1
  /-- Every class belongs to an object. -/
  owned : ∀ entry ∈ entries, entry.1 ≠ classSegment
  /-- Every declaration gives the name of a class to an owner within the limit on nesting. -/
  classes : ∀ declaration ∈ declarations entries, (∃ classRef, declaration.2 = .str classRef) ∧
    (keySegments declaration.1).length ≤ Limits.nestingDepth

section Step

variable {key owner : String} {value : Value} {nodes nodes' : List Node}

theorem any_isEmpty_iff : (keySegments key).any String.isEmpty = true ↔ "" ∈ keySegments key := by
  rw [List.any_eq_true]
  constructor
  · rintro ⟨segment, hmem, hempty⟩
    rwa [String.isEmpty_iff.mp hempty] at hmem
  · exact fun h => ⟨"", h, rfl⟩

/-- A class key is accepted if it has no empty segment and its owner is not nested too deep. -/
theorem declaredOwner?_of_declares (h : splitKey? key = some (owner, classSegment))
    {found : Option String} :
    declaredOwner? key = .ok found ↔ "" ∉ keySegments key ∧
      (keySegments owner).length ≤ Limits.nestingDepth ∧ found = some owner := by
  obtain ⟨hkey, hclass⟩ := splitKey?_eq_some_iff.mp h
  have hsegments : keySegments key = keySegments owner ++ [classSegment] := by
    rw [hkey, keySegments_join hclass]
  have hlast : (keySegments key).getLast? = some classSegment := by simp [hsegments]
  have hdepth : (keySegments key).length - 1 = (keySegments owner).length := by simp [hsegments]
  unfold declaredOwner?
  dsimp only
  by_cases hempty : "" ∈ keySegments key
  · rw [if_pos (any_isEmpty_iff.mpr hempty)]
    simp [hempty]
  · rw [if_neg (fun hany => hempty (any_isEmpty_iff.mp hany)), if_neg (not_not_intro hlast), h,
      hdepth]
    by_cases hdeep : Limits.nestingDepth < (keySegments owner).length
    · simp [hdeep, not_le.mpr hdeep]
    · simp [hdeep, hempty, not_lt.mp hdeep, eq_comm]

theorem getLast?_keySegments_eq (h : ∀ owner, splitKey? key ≠ some (owner, classSegment)) :
    (keySegments key).getLast? = some classSegment ↔ key = classSegment := by
  cases hsplit : splitKey? key with
  | none =>
      rw [keySegments_of_not_compound (splitKey?_eq_none_iff.mp hsplit)]
      simp
  | some parts =>
      obtain ⟨owner, segment⟩ := parts
      obtain ⟨hkey, hsegment⟩ := splitKey?_eq_some_iff.mp hsplit
      have hne : segment ≠ classSegment := by
        rintro rfl
        exact h owner hsplit
      have hkeyne : key ≠ classSegment := by
        rintro rfl
        have hcompound : isCompoundKey classSegment = true := hkey ▸ isCompoundKey_join _ _
        exact absurd hcompound (by decide)
      rw [hkey, keySegments_join hsegment, ← hkey]
      simp [hne, hkeyne]

theorem declaredOwner?_of_not_declares (h : ∀ owner, splitKey? key ≠ some (owner, classSegment))
    {found : Option String} :
    declaredOwner? key = .ok found ↔
      "" ∉ keySegments key ∧ key ≠ classSegment ∧ found = none := by
  unfold declaredOwner?
  dsimp only
  by_cases hempty : "" ∈ keySegments key
  · rw [if_pos (any_isEmpty_iff.mpr hempty)]
    simp [hempty]
  · rw [if_neg (fun hany => hempty (any_isEmpty_iff.mp hany))]
    by_cases hclass : key = classSegment
    · have hsplit : splitKey? key = none := splitKey?_eq_none_iff.mpr (by rw [hclass]; decide)
      rw [if_neg (not_not_intro ((getLast?_keySegments_eq h).mpr hclass)), hsplit]
      simp [hclass]
    · rw [if_pos fun hlast => hclass ((getLast?_keySegments_eq h).mp hlast)]
      simp [hclass, hempty, eq_comm]

/-- Declaring one object puts it in front. -/
theorem declare_of_declares (h : splitKey? key = some (owner, classSegment)) :
    declare nodes key value = .ok nodes' ↔ "" ∉ keySegments key ∧
      (keySegments owner).length ≤ Limits.nestingDepth ∧ nodes.length < Limits.objectCount ∧
      ∃ classRef, value = .str classRef ∧ nodes' = Node.new owner classRef :: nodes := by
  unfold declare
  rw [Outcome.bind_eq_ok_iff]
  constructor
  · rintro ⟨found, hfound, hnodes⟩
    obtain ⟨hempty, hdeep, rfl⟩ := (declaredOwner?_of_declares h).mp hfound
    refine ⟨hempty, hdeep, ?_⟩
    cases value with
    | str classRef =>
        dsimp only at hnodes
        split at hnodes
        · cases hnodes
        next hfew => exact ⟨not_le.mp hfew, classRef, rfl, (Except.ok.inj hnodes).symm⟩
    | _ => cases hnodes
  · rintro ⟨hempty, hdeep, hfew, classRef, rfl, rfl⟩
    refine ⟨some owner, (declaredOwner?_of_declares h).mpr ⟨hempty, hdeep, rfl⟩, ?_⟩
    dsimp only
    rw [if_neg (not_le.mpr hfew)]
    rfl

/-- An entry that declares nothing leaves the objects as they are. -/
theorem declare_of_not_declares (h : ∀ owner, splitKey? key ≠ some (owner, classSegment)) :
    declare nodes key value = .ok nodes' ↔
      "" ∉ keySegments key ∧ key ≠ classSegment ∧ nodes' = nodes := by
  unfold declare
  rw [Outcome.bind_eq_ok_iff]
  constructor
  · rintro ⟨found, hfound, hnodes⟩
    obtain ⟨hempty, hclass, rfl⟩ := (declaredOwner?_of_not_declares h).mp hfound
    exact ⟨hempty, hclass, (Except.ok.inj hnodes).symm⟩
  · rintro ⟨hempty, hclass, rfl⟩
    exact ⟨none, (declaredOwner?_of_not_declares h).mpr ⟨hempty, hclass, rfl⟩, rfl⟩

end Step

section Run

variable {entries : List (String × Value)} {nodes : List Node}

/-- An entry may stand in front of others if it declares nothing wrong. -/
theorem declarable_cons {entry : String × Value} :
    Declarable (entry :: entries) ↔ "" ∉ keySegments entry.1 ∧ entry.1 ≠ classSegment ∧
      (∀ declaration, declaration? entry = some declaration →
        (∃ classRef, declaration.2 = .str classRef) ∧
          (keySegments declaration.1).length ≤ Limits.nestingDepth) ∧
      Declarable entries := by
  constructor
  · rintro ⟨hsegments, howned, hclasses⟩
    have htail := List.forall_mem_cons.mp hsegments
    have htail' := List.forall_mem_cons.mp howned
    refine ⟨htail.1, htail'.1, fun declaration h => hclasses declaration ?_, htail.2, htail'.2,
      fun declaration h => hclasses declaration ?_⟩
    · exact List.mem_filterMap.mpr ⟨entry, List.mem_cons_self, h⟩
    · obtain ⟨other, hother, hdeclares⟩ := List.mem_filterMap.mp h
      exact List.mem_filterMap.mpr ⟨other, List.mem_cons_of_mem entry hother, hdeclares⟩
  · rintro ⟨hsegment, hclass, hdeclaration, hsegments, howned, hclasses⟩
    refine ⟨List.forall_mem_cons.mpr ⟨hsegment, hsegments⟩,
      List.forall_mem_cons.mpr ⟨hclass, howned⟩, fun declaration h => ?_⟩
    obtain ⟨other, hother, hdeclares⟩ := List.mem_filterMap.mp h
    rcases List.mem_cons.mp hother with rfl | hmem
    · exact hdeclaration declaration hdeclares
    · exact hclasses declaration (List.mem_filterMap.mpr ⟨other, hmem, hdeclares⟩)

section Cons

variable {entry : String × Value} {owner : String}

theorem declaration?_of_declares (h : splitKey? entry.1 = some (owner, classSegment)) :
    declaration? entry = some (owner, entry.2) :=
  declaration?_eq_some_iff.mpr ⟨h, rfl⟩

theorem declaration?_of_not_declares
    (h : ∀ owner, splitKey? entry.1 ≠ some (owner, classSegment)) : declaration? entry = none := by
  rw [Option.eq_none_iff_forall_ne_some]
  rintro ⟨owner, value⟩ hdeclares
  exact h owner (declaration?_eq_some_iff.mp hdeclares).1

theorem declarations_cons_of_declares (h : splitKey? entry.1 = some (owner, classSegment)) :
    declarations (entry :: entries) = (owner, entry.2) :: declarations entries :=
  List.filterMap_cons_some (declaration?_of_declares h)

theorem declarations_cons_of_not_declares
    (h : ∀ owner, splitKey? entry.1 ≠ some (owner, classSegment)) :
    declarations (entry :: entries) = declarations entries :=
  List.filterMap_cons_none (declaration?_of_not_declares h)

theorem declarable_cons_of_declares (h : splitKey? entry.1 = some (owner, classSegment)) :
    Declarable (entry :: entries) ↔ "" ∉ keySegments entry.1 ∧
      (∃ classRef, entry.2 = .str classRef) ∧ (keySegments owner).length ≤ Limits.nestingDepth ∧
      Declarable entries := by
  have hclass : entry.1 ≠ classSegment := by
    intro heq
    rw [heq, splitKey?_eq_none_iff.mpr (by decide)] at h
    cases h
  rw [declarable_cons, declaration?_of_declares h, and_iff_right hclass]
  simp only [Option.some.injEq, forall_eq', and_assoc]

theorem declarable_cons_of_not_declares
    (h : ∀ owner, splitKey? entry.1 ≠ some (owner, classSegment)) :
    Declarable (entry :: entries) ↔
      "" ∉ keySegments entry.1 ∧ entry.1 ≠ classSegment ∧ Declarable entries := by
  rw [declarable_cons, declaration?_of_not_declares h]
  simp only [reduceCtorEq, false_implies, implies_true, true_and]

end Cons

/-- The objects that declarations make, one for each and without arguments. -/
def Declares (nodes : List Node) (declarations : List (String × Value)) : Prop :=
  nodes.map (fun n => (n.path, Value.str n.classRef)) = declarations ∧ ∀ n ∈ nodes, n.slots = []

/-- The first declaration makes the first object. -/
theorem declares_cons_iff {owner : String} {value : Value} {rest : List (String × Value)} :
    Declares nodes ((owner, value) :: rest) ↔ ∃ classRef tail, value = .str classRef ∧
      nodes = Node.new owner classRef :: tail ∧ Declares tail rest := by
  constructor
  · rintro ⟨hmap, hslots⟩
    obtain ⟨head, tail, rfl, hhead, htail⟩ := List.map_eq_cons_iff.mp hmap
    obtain ⟨hnew, htailSlots⟩ := List.forall_mem_cons.mp hslots
    obtain ⟨path, classRef, slots⟩ := head
    simp only [Node.path, Node.classRef, Prod.mk.injEq] at hhead
    obtain ⟨rfl, rfl⟩ := hhead
    cases hnew
    exact ⟨classRef, tail, rfl, rfl, htail, htailSlots⟩
  · rintro ⟨classRef, tail, rfl, rfl, hmap, hslots⟩
    refine ⟨?_, List.forall_mem_cons.mpr ⟨rfl, hslots⟩⟩
    rw [List.map_cons, hmap]
    rfl

/-- Going on declaring after some objects. The objects stand in reverse order. -/
theorem foldlM_declare_eq_ok_iff {before : List Node} (hbefore : before.length ≤ Limits.objectCount) :
    entries.foldlM (fun nodes entry => declare nodes entry.1 entry.2) before = .ok nodes ↔
      Declarable entries ∧ before.length + (declarations entries).length ≤ Limits.objectCount ∧
        ∃ added, nodes = added.reverse ++ before ∧ Declares added (declarations entries) := by
  -- the objects so far only matter by their number, so the run may begin after any of them
  induction entries generalizing before with
  | nil =>
      have hempty : Declarable [] := ⟨by simp, by simp, by simp [declarations]⟩
      simp only [List.foldlM_nil, declarations, List.filterMap_nil, Declares]
      constructor
      · intro h
        cases h
        exact ⟨hempty, hbefore, [], rfl, rfl, by simp⟩
      · rintro ⟨-, -, added, rfl, hmap, -⟩
        rw [List.map_eq_nil_iff] at hmap
        subst hmap
        rfl
  | cons entry rest ih =>
      rw [List.foldlM_cons, Outcome.bind_eq_ok_iff]
      by_cases hdeclares : ∃ owner, splitKey? entry.1 = some (owner, classSegment)
      · obtain ⟨owner, hsplit⟩ := hdeclares
        rw [declarable_cons_of_declares hsplit, declarations_cons_of_declares hsplit,
          List.length_cons]
        simp only [declare_of_declares hsplit]
        constructor
        · rintro ⟨_, ⟨hsegment, hdeep, hfew, classRef, hvalue, rfl⟩, hrun⟩
          have hmore : (Node.new owner classRef :: before).length ≤ Limits.objectCount := hfew
          obtain ⟨hrest, hcount, added, rfl, hadded⟩ := (ih hmore).mp hrun
          rw [List.length_cons] at hcount
          refine ⟨⟨hsegment, ⟨classRef, hvalue⟩, hdeep, hrest⟩, by omega,
            Node.new owner classRef :: added, by simp, ?_⟩
          exact declares_cons_iff.mpr ⟨classRef, added, hvalue, rfl, hadded⟩
        · rintro ⟨⟨hsegment, -, hdeep, hrest⟩, hcount, added, rfl, hadded⟩
          obtain ⟨classRef, tail, hvalue, rfl, htail⟩ := declares_cons_iff.mp hadded
          have hmore : (Node.new owner classRef :: before).length ≤ Limits.objectCount := by
            rw [List.length_cons]
            omega
          refine ⟨_, ⟨hsegment, hdeep, by omega, classRef, hvalue, rfl⟩, ?_⟩
          exact (ih hmore).mpr ⟨hrest, by rw [List.length_cons]; omega, tail, by simp, htail⟩
      · rw [not_exists] at hdeclares
        rw [declarable_cons_of_not_declares hdeclares, declarations_cons_of_not_declares hdeclares]
        simp only [declare_of_not_declares hdeclares]
        constructor
        · rintro ⟨_, ⟨hsegment, hclass, rfl⟩, hrun⟩
          obtain ⟨hrest, hadded⟩ := (ih hbefore).mp hrun
          exact ⟨⟨hsegment, hclass, hrest⟩, hadded⟩
        · rintro ⟨⟨hsegment, hclass, hrest⟩, hadded⟩
          exact ⟨before, ⟨hsegment, hclass, rfl⟩, (ih hbefore).mpr ⟨hrest, hadded⟩⟩

/-- When all objects can be declared, and what they are then. -/
theorem declareAll_eq_ok_iff :
    declareAll entries = .ok nodes ↔ Declarable entries ∧
      (declarations entries).length ≤ Limits.objectCount ∧
      Declares nodes (declarations entries) := by
  have hrun := @foldlM_declare_eq_ok_iff entries nodes.reverse [] (Nat.zero_le _)
  unfold declareAll
  rw [Outcome.bind_eq_ok_iff]
  constructor
  · rintro ⟨reversed, hreversed, heq⟩
    cases heq
    rw [List.reverse_reverse] at hrun
    obtain ⟨hdeclarable, hcount, added, hadded, hdeclares⟩ := hrun.mp hreversed
    rw [List.append_nil] at hadded
    rw [hadded, List.reverse_reverse]
    exact ⟨hdeclarable, by simpa using hcount, hdeclares⟩
  · rintro ⟨hdeclarable, hcount, hdeclares⟩
    refine ⟨nodes.reverse, hrun.mpr ⟨hdeclarable, by simpa using hcount, nodes, by simp, hdeclares⟩, ?_⟩
    simp only [List.reverse_reverse]
    rfl

end Run

end Forest

end Hyperparams

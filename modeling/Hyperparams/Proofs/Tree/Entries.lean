import Mathlib.Data.List.Nodup
import Hyperparams.Proofs.Keys

/-!
# What entries describe

Read without an order, compound entries declare objects and assign values. A declaration is an owner
and the value that should name its class; an assignment is an owner, the last segment of a key and a
value. A declared object that has an owner itself is nested there.
-/

namespace Hyperparams

namespace Slot

/-- The slot that a segment denotes, were there no limit on positions. -/
def ofSegment (segment : String) : Slot :=
  if Decimal.isDigits segment.toList then positional (Decimal.ofDigits segment.toList)
  else named segment

/-- Whether a segment that is a position stays within the limit. -/
def InRange (segment : String) : Prop :=
  Decimal.isDigits segment.toList = true →
    Decimal.ofDigits segment.toList ≤ Limits.positionalIndex

/-- Whether two segments are spellings of one slot: they are equal, or digits of one number. -/
def SameSlot (a b : String) : Prop :=
  a = b ∨ Decimal.isDigits a.toList = true ∧ Decimal.isDigits b.toList = true ∧
    Decimal.ofDigits a.toList = Decimal.ofDigits b.toList

/-- A segment in range denotes its slot. -/
theorem parse_eq_ok_iff {segment key : String} {slot : Slot} :
    parse segment key = .ok slot ↔ InRange segment ∧ ofSegment segment = slot := by
  unfold parse InRange ofSegment
  by_cases hdigits : Decimal.isDigits segment.toList = true
  · simp only [hdigits, if_true, forall_const]
    cases hread : Decimal.ofDigitsUpTo Limits.positionalIndex segment.toList with
    | none =>
        have hlarge : ¬ Decimal.ofDigits segment.toList ≤ Limits.positionalIndex := fun hle => by
          rw [Decimal.ofDigitsUpTo_eq_some_iff.mpr ⟨rfl, hle⟩] at hread
          cases hread
        simp [hlarge]
    | some index =>
        obtain ⟨rfl, hle⟩ := Decimal.ofDigitsUpTo_eq_some_iff.mp hread
        simp [hle]
  · simp [hdigits]

/-- A position beyond the limit is refused with its key and its segment. -/
theorem parse_eq_error_iff {segment key : String} {e : TreeError} :
    parse segment key = .error e ↔
      ¬ InRange segment ∧ e = .positionalIndexTooLarge key segment := by
  cases hparse : parse segment key with
  | ok slot => simp [(parse_eq_ok_iff.mp hparse).1]
  | error e' =>
      have hlarge : ¬ InRange segment := fun hrange => by
        rw [parse_eq_ok_iff.mpr ⟨hrange, rfl⟩] at hparse
        cases hparse
      have he' : e' = .positionalIndexTooLarge key segment := by
        unfold parse at hparse
        split at hparse
        · split at hparse
          · cases hparse
          · exact (Except.error.inj hparse).symm
        · cases hparse
      rw [he', Except.error.injEq, and_iff_right hlarge, eq_comm]

/-- Segments denote one slot if they are spellings of it. -/
theorem ofSegment_eq_iff {a b : String} : ofSegment a = ofSegment b ↔ SameSlot a b := by
  unfold ofSegment SameSlot
  by_cases ha : Decimal.isDigits a.toList = true <;> by_cases hb : Decimal.isDigits b.toList = true
  · simp only [ha, hb, if_true, positional.injEq, true_and]
    exact ⟨Or.inr, fun h => h.elim (fun heq => heq ▸ rfl) id⟩
  · simp only [ha, hb, if_true, if_false, reduceCtorEq, false_iff, not_or, Bool.false_eq_true]
    exact ⟨fun heq => hb (heq ▸ ha), fun h => h.2.1.elim⟩
  · simp only [ha, hb, if_true, if_false, reduceCtorEq, false_iff, not_or, Bool.false_eq_true]
    exact ⟨fun heq => ha (heq ▸ hb), fun h => h.1.elim⟩
  · simp [ha, hb]

end Slot

namespace Forest

/-- The owner and the class of an entry that declares an object. -/
def declaration? (entry : String × Value) : Option (String × Value) :=
  (splitKey? entry.1).bind fun (owner, segment) =>
    if segment = classSegment then some (owner, entry.2) else none

/-- The owner, the last segment and the value of every other entry. -/
def assignment? (entry : String × Value) : Option (String × String × Value) :=
  (splitKey? entry.1).bind fun (owner, segment) =>
    if segment = classSegment then none else some (owner, segment, entry.2)

def declarations (entries : List (String × Value)) : List (String × Value) :=
  entries.filterMap declaration?

def assignments (entries : List (String × Value)) : List (String × String × Value) :=
  entries.filterMap assignment?

/-- The assigned values, with the slots that they go into. -/
def assigned (entries : List (String × Value)) : List (String × Slot × Value) :=
  (assignments entries).map fun (owner, segment, value) => (owner, Slot.ofSegment segment, value)

def owners (entries : List (String × Value)) : List String :=
  (declarations entries).map Prod.fst

/-- Where a nested object belongs: the path of its parent and the slot there. -/
def link? (path : String) : Option (String × Slot × String) :=
  (splitKey? path).map fun (parent, segment) => (parent, Slot.ofSegment segment, path)

/-- Whether an owner and a segment lead to a slot of a declared object. -/
def Placeable (owners : List String) (owner segment : String) : Prop :=
  owner ∈ owners ∧ Slot.InRange segment

theorem declaration?_eq_some_iff {entry : String × Value} {owner : String} {value : Value} :
    declaration? entry = some (owner, value) ↔
      splitKey? entry.1 = some (owner, classSegment) ∧ entry.2 = value := by
  unfold declaration?
  rw [Option.bind_eq_some_iff]
  constructor
  · rintro ⟨⟨o, segment⟩, hsplit, h⟩
    by_cases hclass : segment = classSegment
    · simp only [hclass, if_true, Option.some.injEq, Prod.mk.injEq] at h
      obtain ⟨rfl, rfl⟩ := h
      exact ⟨hclass ▸ hsplit, rfl⟩
    · simp [hclass] at h
  · rintro ⟨hsplit, rfl⟩
    exact ⟨_, hsplit, by simp⟩

theorem assignment?_eq_some_iff {entry : String × Value} {owner segment : String} {value : Value} :
    assignment? entry = some (owner, segment, value) ↔
      splitKey? entry.1 = some (owner, segment) ∧ segment ≠ classSegment ∧ entry.2 = value := by
  unfold assignment?
  rw [Option.bind_eq_some_iff]
  constructor
  · rintro ⟨⟨o, s⟩, hsplit, h⟩
    by_cases hclass : s = classSegment
    · simp [hclass] at h
    · simp only [hclass, if_false, Option.some.injEq, Prod.mk.injEq] at h
      obtain ⟨rfl, rfl, rfl⟩ := h
      exact ⟨hsplit, hclass, rfl⟩
  · rintro ⟨hsplit, hclass, rfl⟩
    exact ⟨_, hsplit, by simp [hclass]⟩

/-- Keys that are all different declare different objects. -/
theorem owners_nodup {entries : List (String × Value)} (h : (entries.map Prod.fst).Nodup) :
    (owners entries).Nodup := by
  unfold owners declarations
  rw [List.Nodup, List.pairwise_map] at h ⊢
  rw [List.pairwise_filterMap]
  refine h.imp fun {entry entry'} hne declaration hentry declaration' hentry' heq => hne ?_
  obtain ⟨owner, value⟩ := declaration
  obtain ⟨owner', value'⟩ := declaration'
  have hkey := (splitKey?_eq_some_iff.mp (declaration?_eq_some_iff.mp hentry).1).1
  have hkey' := (splitKey?_eq_some_iff.mp (declaration?_eq_some_iff.mp hentry').1).1
  rw [hkey, hkey']
  exact congrArg (· ++ "." ++ classSegment) heq

end Forest

end Hyperparams

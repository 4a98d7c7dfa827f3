import Hyperparams.Decimal.Digits
import Hyperparams.Sorted
import Hyperparams.Tree.Error

/-!
# Slots

Where an argument lands in a constructor call. A segment of digits is a position, whatever leading
zeros it has; every other segment is a name. Positions come before names; positions ascend and
names follow each other in the order of their characters.
-/

namespace Hyperparams

/-- A place in a constructor call. -/
inductive Slot where
  | positional (index : Nat)
  | named (name : String)
deriving DecidableEq, Repr

namespace Slot

def before : Slot → Slot → Bool
  | positional i, positional j => i < j
  | positional _, named _ => true
  | named _, positional _ => false
  | named a, named b => a < b

instance : LT Slot := ⟨fun a b => a.before b = true⟩

instance : DecidableLT Slot := fun a b => inferInstanceAs (Decidable (a.before b = true))

theorem positional_lt_positional {i j : Nat} : positional i < positional j ↔ i < j := by
  change before _ _ = true ↔ _
  simp [before]

/-- Positions come before names. -/
theorem positional_lt_named (i : Nat) (name : String) : positional i < named name := rfl

theorem not_named_lt_positional (name : String) (i : Nat) : ¬ named name < positional i := by
  change ¬ before _ _ = true
  simp [before]

theorem named_lt_named {a b : String} : named a < named b ↔ a < b := by
  change before _ _ = true ↔ _
  simp [before]

/-- Slots are ordered like the arguments of a call: positions first, then names. -/
instance : Sorted.StrictTotal Slot where
  irrefl slot h := by
    cases slot with
    | positional i => exact Nat.lt_irrefl i (positional_lt_positional.mp h)
    | named a => exact String.lt_irrefl a (named_lt_named.mp h)
  trans {a b c} hab hbc := by
    cases a <;> cases b <;> cases c <;>
      simp only [positional_lt_positional, named_lt_named, positional_lt_named,
        not_named_lt_positional] at *
    · exact Nat.lt_trans hab hbc
    · exact String.lt_trans hab hbc
  trichotomous a b hab hba := by
    cases a <;> cases b <;>
      simp only [positional_lt_positional, named_lt_named, positional_lt_named,
        not_named_lt_positional, not_true_eq_false] at *
    · exact congrArg _ (Std.Trichotomous.trichotomous _ _ hab hba)
    · exact congrArg _ (Std.Trichotomous.trichotomous _ _ hab hba)

def text : Slot → String
  | positional index => toString index
  | named name => name

def index? : Slot → Option Nat
  | positional index => some index
  | named _ => none

/-- The slot of a segment. The key that the segment belongs to is only named in the error. -/
def parse (segment key : String) : Except TreeError Slot :=
  if Decimal.isDigits segment.toList then
    match Decimal.ofDigitsUpTo Limits.positionalIndex segment.toList with
    | some index => .ok (positional index)
    | none => .error (.positionalIndexTooLarge key segment)
  else .ok (named segment)

end Slot

end Hyperparams

/-!
# Decimal digits

Texts of decimal digits and the natural numbers they denote. `ofDigitsUpTo` reads a text of any
length against a bound and stops once the bound is passed; `ofDigitsUpTo_eq_some_iff` says that it
agrees with the unbounded reading.
-/

namespace Hyperparams.Decimal

def digit (c : Char) : Nat :=
  c.toNat - '0'.toNat

/-- The number that digit characters denote; leading zeros do not count. -/
def ofDigits (ds : List Char) : Nat :=
  ds.foldl (fun n c => 10 * n + digit c) 0

def ofDigitsUpTo.go (limit n : Nat) : List Char → Option Nat
  | [] => some n
  | c :: rest =>
    let n := 10 * n + digit c
    if n ≤ limit then ofDigitsUpTo.go limit n rest else none

/-- The number that digit characters denote, if it is at most `limit`. -/
def ofDigitsUpTo (limit : Nat) (ds : List Char) : Option Nat :=
  ofDigitsUpTo.go limit 0 ds

/-- The decimal digits of a number, without leading zeros. -/
def toDigits (n : Nat) : List Char :=
  Nat.toDigits 10 n

/-- A non-empty text of ASCII digits. -/
def isDigits (cs : List Char) : Bool :=
  !cs.isEmpty && cs.all Char.isDigit

/-- Further digits never make a number smaller. -/
theorem le_foldl_digits (ds : List Char) (n : Nat) :
    n ≤ ds.foldl (fun n c => 10 * n + digit c) n := by
  induction ds generalizing n with
  | nil => exact Nat.le_refl n
  | cons c rest ih =>
      refine Nat.le_trans ?_ (ih (10 * n + digit c))
      omega

theorem ofDigitsUpTo_go_eq_some_iff {limit n m : Nat} {ds : List Char} (hn : n ≤ limit) :
    ofDigitsUpTo.go limit n ds = some m ↔
      ds.foldl (fun n c => 10 * n + digit c) n = m ∧ m ≤ limit := by
  induction ds generalizing n with
  | nil =>
      simp only [ofDigitsUpTo.go, Option.some.injEq, List.foldl_nil]
      exact ⟨fun h => ⟨h, h ▸ hn⟩, fun h => h.1⟩
  | cons c rest ih =>
      by_cases h : 10 * n + digit c ≤ limit
      · simp only [ofDigitsUpTo.go, h, if_true, List.foldl_cons]
        exact ih h
      · have hle := le_foldl_digits rest (10 * n + digit c)
        simp only [ofDigitsUpTo.go, h, if_false, List.foldl_cons]
        refine ⟨fun hm => ?_, fun hm => ?_⟩
        · cases hm
        · omega

/-- Bounded reading is the full reading followed by one comparison. -/
theorem ofDigitsUpTo_eq_some_iff {limit m : Nat} {ds : List Char} :
    ofDigitsUpTo limit ds = some m ↔ ofDigits ds = m ∧ m ≤ limit :=
  ofDigitsUpTo_go_eq_some_iff (Nat.zero_le limit)

end Hyperparams.Decimal

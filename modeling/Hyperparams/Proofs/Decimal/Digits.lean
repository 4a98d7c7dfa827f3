import Mathlib.Tactic.Linarith
import Hyperparams.Decimal.Digits

/-!
# Digits and the numbers they denote

Digits that follow each other denote the sum of what they denote in their places. The digits of a
number denote the number, and there are no more of them than its size asks for.
-/

namespace Hyperparams.Decimal

variable {ds : List Char} {n k : Nat}

theorem ofDigits_eq (ds : List Char) : ofDigits ds = Nat.ofDigitChars 10 ds 0 :=
  Nat.ofDigitChars_eq_foldl.symm

/-- Digits in front of others count with the weight of their places. -/
theorem ofDigits_append (ds es : List Char) :
    ofDigits (ds ++ es) = ofDigits ds * 10 ^ es.length + ofDigits es := by
  rw [ofDigits_eq, Nat.ofDigitChars_append, Nat.ofDigitChars_eq_ofDigitChars_zero, ofDigits_eq,
    ofDigits_eq, Nat.mul_comm]

theorem ofDigits_zeros (n : Nat) : ofDigits (List.replicate n '0') = 0 := by
  rw [ofDigits_eq, Nat.ofDigitChars_replicate_zero, Nat.mul_zero]

/-- Leading zeros do not count. -/
theorem ofDigits_dropWhile (ds : List Char) : ofDigits (ds.dropWhile (· == '0')) = ofDigits ds := by
  induction ds with
  | nil => rfl
  | cons c rest ih =>
      by_cases hc : c = '0'
      · subst hc
        rw [List.dropWhile_cons_of_pos rfl, ih]
        rfl
      · rw [List.dropWhile_cons_of_neg (by simpa using hc)]

theorem isDigits_iff : isDigits ds = true ↔ ds ≠ [] ∧ ∀ c ∈ ds, c.isDigit = true := by
  simp [isDigits]

theorem toList_toString (n : Nat) : (toString n).toList = toDigits n :=
  Nat.toList_repr

theorem isDigits_toDigits (n : Nat) : isDigits (toDigits n) = true :=
  isDigits_iff.mpr ⟨Nat.toDigits_ne_nil,
    fun _ hc => Nat.isDigit_of_mem_toDigits (by decide) (by decide) hc⟩

/-- The digits of a number denote the number. -/
theorem ofDigits_toDigits (n : Nat) : ofDigits (toDigits n) = n := by
  rw [ofDigits_eq]
  exact Nat.ofDigitChars_ten_toDigits

/-- A number below a power of ten has no more digits than the exponent says. -/
theorem length_toDigits_le (hk : 0 < k) (h : n < 10 ^ k) : (toDigits n).length ≤ k :=
  (Nat.length_toDigits_le_iff (by decide) hk).mpr h

theorem isDigit_cases {c : Char} (h : c.isDigit = true) :
    48 ≤ c.toNat ∧ c.toNat ≤ 57 := by
  simpa [Char.isDigit, UInt32.le_iff_toNat_le] using h

/-- Digits denote a number below the power of ten for their count. -/
theorem ofDigits_lt (h : ∀ c ∈ ds, c.isDigit = true) : ofDigits ds < 10 ^ ds.length := by
  induction ds with
  | nil => exact Nat.one_pos
  | cons c ds ih =>
      obtain ⟨hc, hds⟩ := List.forall_mem_cons.mp h
      have hdigit : digit c ≤ 9 := by
        have hle := (isDigit_cases hc).2
        exact Nat.sub_le_of_le_add hle
      have hsplit : ofDigits (c :: ds) = digit c * 10 ^ ds.length + ofDigits ds := by
        rw [← List.singleton_append, ofDigits_append]
        simp [ofDigits]
      have htail := ih hds
      rw [hsplit, List.length_cons, Nat.pow_succ]
      nlinarith

/-- Only zero is written with a leading zero. -/
theorem head?_toDigits (n : Nat) : (toDigits n).head? ≠ some '0' ∨ (toDigits n).length = 1 := by
  by_contra h
  push Not at h
  obtain ⟨hhead, hlength⟩ := h
  obtain ⟨ds, hds⟩ := List.head?_eq_some_iff.mp hhead
  have hdigits := (isDigits_iff.mp (isDigits_toDigits n)).2
  have hvalue : n = ofDigits ds := by
    rw [← ofDigits_toDigits n, hds]
    rfl
  rw [hds] at hdigits hlength
  have hlt := ofDigits_lt (List.forall_mem_cons.mp hdigits).2
  have hpos : 0 < ds.length := by
    rw [List.length_cons] at hlength
    omega
  have hle := length_toDigits_le hpos (hvalue ▸ hlt)
  rw [hds, List.length_cons] at hle
  omega

theorem isDigits_toString (n : Nat) : isDigits (toString n).toList = true := by
  rw [toList_toString]
  exact isDigits_toDigits n

/-- The decimal text of a number is read as the number. -/
theorem ofDigits_toString (n : Nat) : ofDigits (toString n).toList = n := by
  rw [toList_toString, ofDigits_toDigits]

end Hyperparams.Decimal

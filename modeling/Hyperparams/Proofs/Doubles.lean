import Mathlib
import Hyperparams.Decimal.Nearest

/-!
# Finite doubles

A double whose exponent field is not full is finite, and a finite double equals itself. Integers of
at most 64 bits are far from the largest double, so the doubles nearest to them are finite.
-/

namespace Hyperparams.Decimal

open Float.Model (Format UnpackedFloat)
open Float.Model.UnpackedFloat (unpackExponent unpackExponent_def pack_unpack)

section Bits

variable {w : UInt64}

/-- The exponent field of a double is full if all its bits are set. -/
theorem unpackExponent_ne_full (h : w.toNat / 2 ^ 52 % 2 ^ 11 < 2047) :
    @unpackExponent Format.binary64 w.toBitVec ≠ -1#11 := by
  intro heq
  have hvalue := congrArg BitVec.toNat heq
  rw [unpackExponent_def, BitVec.extractLsb'_toNat, Nat.shiftRight_eq_div_pow] at hvalue
  change w.toNat / 2 ^ 52 % 2 ^ 11 = 2047 at hvalue
  omega

theorem isFinite_ofBits (h : w.toNat / 2 ^ 52 % 2 ^ 11 < 2047) :
    (Float.ofBits w).isFinite = true := by
  have hexponent := unpackExponent_ne_full h
  have hkept : (UnpackedFloat.unpack Format.binary64 w.toBitVec).pack Format.binary64 =
      w.toBitVec := by
    rw [pack_unpack, if_neg fun hnan => hexponent (of_decide_eq_true hnan).1]
  change (UnpackedFloat.unpack Format.binary64
    ((UnpackedFloat.unpack Format.binary64 w.toBitVec).pack _)).isFinite = true
  rw [hkept]
  unfold UnpackedFloat.unpack
  dsimp only
  rw [if_neg hexponent]
  split
  · split <;> rfl
  · rfl

theorem isFinite_ofMagnitude {bits : Nat} (negative : Bool) (h : bits < infinityBits) :
    (ofMagnitude negative bits).isFinite = true := by
  unfold infinityBits at h
  refine isFinite_ofBits ?_
  unfold signBit
  rw [UInt64.toNat_ofNat']
  cases negative with
  | false =>
      rw [if_neg Bool.false_ne_true]
      omega
  | true =>
      rw [if_pos rfl]
      omega

end Bits

/-- A finite double is equal to itself. -/
theorem beq_self_of_isFinite {x : Float} (h : x.isFinite = true) : (x == x) = true := by
  rw [Float.beq_self_iff]
  rintro rfl
  revert h
  decide

section Integers

variable {m : Nat}

theorem roundDiv_le (num den : Nat) : roundDiv num den ≤ num / den + 1 := by
  unfold roundDiv
  dsimp only
  split
  · exact Nat.le_succ _
  · split
    · exact Nat.le_refl _
    · split
      · exact Nat.le_succ _
      · exact Nat.le_refl _

theorem binaryExponent_one (h : m ≠ 0) : binaryExponent m 1 = m.log2 := by
  have hle : 1 * 2 ^ m.log2 ≤ m := by
    rw [Nat.one_mul]
    exact Nat.log2_self_le h
  have hlog : Nat.log2 1 = 0 := by decide
  unfold binaryExponent
  simp only [hlog, Nat.pow_eq]
  rw [if_pos (by simpa using hle)]
  simp

/-- A significand has 53 bits. -/
theorem units_le {q : Int} (h : (m.log2 : Int) - 52 ≤ q) :
    roundDiv (m * Nat.pow 2 (-q).toNat) (1 * Nat.pow 2 q.toNat) ≤ 2 ^ 53 := by
  have hlt : m < 2 ^ (m.log2 + 1) := Nat.lt_log2_self
  refine (roundDiv_le _ _).trans (Nat.succ_le_of_lt ?_)
  rw [Nat.one_mul, Nat.pow_eq, Nat.pow_eq, Nat.div_lt_iff_lt_mul (by positivity)]
  rcases le_or_gt 0 q with hq | hq
  · rw [Int.toNat_of_nonpos (by omega : -q ≤ 0), Nat.pow_zero, Nat.mul_one, ← Nat.pow_add]
    exact hlt.trans_le (Nat.pow_le_pow_right two_pos (by omega))
  · rw [Int.toNat_of_nonpos hq.le, Nat.pow_zero, Nat.mul_one]
    calc m * 2 ^ (-q).toNat < 2 ^ (m.log2 + 1) * 2 ^ (-q).toNat :=
          Nat.mul_lt_mul_of_pos_right hlt (by positivity)
      _ = 2 ^ (m.log2 + 1 + (-q).toNat) := (Nat.pow_add _ _ _).symm
      _ ≤ 2 ^ 53 := Nat.pow_le_pow_right two_pos (by omega)

theorem nearestQuotient_one_lt (h : m < 2 ^ 64) : nearestQuotient m 1 < infinityBits := by
  unfold nearestQuotient
  split
  · decide
  next hm =>
    have hlog : m.log2 < 64 := (Nat.log2_lt hm).mpr h
    have hunits := units_le (m := m) (le_max_left ((m.log2 : Int) - 52) (-1074))
    have hpow : Nat.pow 2 52 = 4503599627370496 := by decide
    rw [binaryExponent_one hm, hpow]
    dsimp only
    unfold infinityBits
    omega

/-- Integers of 64 bits are finite doubles. -/
theorem isFinite_ofInt {n : Int} (h : n.natAbs < 2 ^ 64) : (ofInt n).isFinite = true := by
  refine isFinite_ofMagnitude _ ?_
  unfold nearest
  split
  · decide
  · rw [if_neg (by decide)]
    have hone : nearestQuotient (n.natAbs * Nat.pow 10 (Int.toNat 0))
        (Nat.pow 10 (Int.toNat (-0))) = nearestQuotient n.natAbs 1 := by simp
    rw [hone]
    exact nearestQuotient_one_lt h

end Integers

end Hyperparams.Decimal

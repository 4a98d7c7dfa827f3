import Mathlib
import Hyperparams.Decimal.Shortest
import Hyperparams.Proofs.Decimal.Digits

/-!
# Rounding to doubles

The double nearest to a decimal only depends on the decimal's value. It is computed from quotients
of natural numbers; here it is the rounding of a rational number, so that decimals of one value have
one nearest double. A double is nearest to itself, and so the decimal that is chosen for a double
reads back as the double.
-/

namespace Hyperparams.Decimal

/-- A rational number rounded to the nearest natural number, a tie to the even one. -/
def roundEven (x : ℚ) : ℕ :=
  if x - ⌊x⌋₊ < 1 / 2 then ⌊x⌋₊
  else if 1 / 2 < x - ⌊x⌋₊ then ⌊x⌋₊ + 1
  else if ⌊x⌋₊ % 2 = 0 then ⌊x⌋₊ else ⌊x⌋₊ + 1

/-- The binary exponent of the last place of the significand of a double near a number. -/
def lastPlace (x : ℚ) : ℤ :=
  max (Int.log 2 x - 52) (-1074)

def nearestBits (x : ℚ) : ℕ :=
  if x = 0 then 0
  else
    min ((lastPlace x + 1074).toNat * 2 ^ 52 + roundEven (x * 2 ^ (-lastPlace x))) infinityBits

section Rounding

variable {x : ℚ} {n num den : ℕ}

theorem roundEven_natCast (n : ℕ) : roundEven n = n := by
  simp [roundEven]

theorem roundEven_eq_zero (hx : x < 1 / 2) : roundEven x = 0 := by
  have hfloor : ⌊x⌋₊ = 0 := Nat.floor_eq_zero.mpr (by linarith)
  rw [roundEven, hfloor, if_pos]
  simpa using hx

theorem le_roundEven (h : (n : ℚ) ≤ x) : n ≤ roundEven x := by
  have hfloor : n ≤ ⌊x⌋₊ := Nat.le_floor h
  unfold roundEven
  split_ifs <;> omega

/-- Integer division with ties to even rounds the quotient. -/
theorem roundDiv_eq (hden : 0 < den) : roundDiv num den = roundEven (num / den) := by
  have hfloor : ⌊(num / den : ℚ)⌋₊ = num / den := Nat.floor_div_eq_div num den
  have hpos : (0 : ℚ) < den := by exact_mod_cast hden
  have hrest : (num / den : ℚ) - ((num / den : ℕ) : ℚ) = ((num % den : ℕ) : ℚ) / den := by
    have hsplit : (num : ℚ) = den * (num / den : ℕ) + (num % den : ℕ) := by
      exact_mod_cast (Nat.div_add_mod num den).symm
    rw [sub_eq_iff_eq_add, div_eq_iff hpos.ne', add_mul, div_mul_cancel₀ _ hpos.ne']
    linarith
  have hlow : ((num % den : ℕ) : ℚ) / den < 1 / 2 ↔ 2 * (num % den) < den := by
    rw [div_lt_div_iff₀ hpos two_pos]
    constructor <;> intro h
    · have : ((2 * (num % den) : ℕ) : ℚ) < den := by push_cast; linarith
      exact_mod_cast this
    · have : ((2 * (num % den) : ℕ) : ℚ) < den := by exact_mod_cast h
      push_cast at this
      linarith
  have hhigh : 1 / 2 < ((num % den : ℕ) : ℚ) / den ↔ den < 2 * (num % den) := by
    rw [div_lt_div_iff₀ two_pos hpos]
    constructor <;> intro h
    · have : (den : ℚ) < ((2 * (num % den) : ℕ) : ℚ) := by push_cast; linarith
      exact_mod_cast this
    · have : (den : ℚ) < ((2 * (num % den) : ℕ) : ℚ) := by exact_mod_cast h
      push_cast at this
      linarith
  simp only [roundDiv, roundEven, hfloor, hrest, hlow, hhigh]

end Rounding

section Exponents

variable {num den : ℕ}

/-- A power as a quotient of two, of which one is 1. -/
theorem zpow_eq_div (b : ℚ) (a : ℤ) : b ^ a = b ^ a.toNat / b ^ (-a).toNat := by
  rcases le_total 0 a with h | h
  · rw [Int.toNat_of_nonpos (by omega : -a ≤ 0), pow_zero, div_one, ← zpow_natCast,
      Int.toNat_of_nonneg h]
  · rw [Int.toNat_of_nonpos h, pow_zero, one_div, ← zpow_natCast, Int.toNat_of_nonneg (by omega),
      zpow_neg, inv_inv]

theorem zpow_log2_le (hnum : 0 < num) : (2 : ℚ) ^ (num.log2 : ℤ) ≤ num := by
  rw [zpow_natCast]
  exact_mod_cast Nat.log2_self_le hnum.ne'

theorem lt_zpow_log2 (num : ℕ) : (num : ℚ) < 2 ^ ((num.log2 : ℤ) + 1) := by
  have h : num < 2 ^ (num.log2 + 1) := Nat.lt_log2_self
  exact_mod_cast h

theorem zpow_le_div_iff (hden : 0 < den) (a : ℤ) :
    (2 : ℚ) ^ a ≤ num / den ↔ den * 2 ^ a.toNat ≤ num * 2 ^ (-a).toNat := by
  have hden' : (0 : ℚ) < den := by exact_mod_cast hden
  rw [zpow_eq_div, div_le_div_iff₀ (by positivity) hden', mul_comm]
  exact_mod_cast Iff.rfl

/-- The binary exponent of a quotient is its logarithm. -/
theorem binaryExponent_eq (hnum : 0 < num) (hden : 0 < den) :
    binaryExponent num den = Int.log 2 (num / den : ℚ) := by
  have hnum' : (0 : ℚ) < num := by exact_mod_cast hnum
  have hden' : (0 : ℚ) < den := by exact_mod_cast hden
  have hlow : (2 : ℚ) ^ ((num.log2 : ℤ) - den.log2 - 1) ≤ num / den := by
    have hsplit : (num.log2 : ℤ) - den.log2 - 1 = num.log2 - (den.log2 + 1) := by ring
    rw [hsplit, zpow_sub₀ two_ne_zero]
    exact div_le_div₀ hnum'.le (zpow_log2_le hnum) hden' (lt_zpow_log2 den).le
  have hhigh : (num / den : ℚ) < 2 ^ ((num.log2 : ℤ) - den.log2 + 1) := by
    have hsplit : (num.log2 : ℤ) - den.log2 + 1 = num.log2 + 1 - den.log2 := by ring
    rw [hsplit, zpow_sub₀ two_ne_zero]
    exact div_lt_div₀ (lt_zpow_log2 num) (zpow_log2_le hden) (by positivity) (by positivity)
  have hpos : (0 : ℚ) < num / den := div_pos hnum' hden'
  have hle : ∀ a, a ≤ Int.log 2 (num / den : ℚ) ↔ (2 : ℚ) ^ a ≤ num / den := fun a =>
    (Int.zpow_le_iff_le_log one_lt_two hpos).symm
  have hlog := (hle _).mpr hlow
  have hlog' := (Int.lt_zpow_iff_log_lt one_lt_two hpos).mp hhigh
  -- the difference of the logarithms is off by one at most, and the tests find by how much
  unfold binaryExponent
  simp only [Nat.pow_eq, ← zpow_le_div_iff hden, ← hle]
  split_ifs <;> omega

/-- The power of two that scales a quotient, as it is multiplied into its two parts. -/
theorem div_mul_zpow_neg (num den : ℕ) (q : ℤ) :
    (num / den : ℚ) * 2 ^ (-q) =
      ((num * 2 ^ (-q).toNat : ℕ) : ℚ) / ((den * 2 ^ q.toNat : ℕ) : ℚ) := by
  rw [zpow_eq_div, neg_neg, div_mul_div_comm]
  push_cast
  rfl

/-- The nearest double of a quotient of natural numbers is that of the rational number. -/
theorem nearestQuotient_eq (hden : 0 < den) :
    nearestQuotient num den = nearestBits (num / den) := by
  rcases Nat.eq_zero_or_pos num with rfl | hnum
  · simp [nearestQuotient, nearestBits]
  · have hne : (num / den : ℚ) ≠ 0 := by positivity
    unfold nearestQuotient nearestBits
    dsimp only
    rw [if_neg hnum.ne', if_neg hne, binaryExponent_eq hnum hden]
    change min ((lastPlace _ + 1074).toNat * _ + roundDiv (_ * Nat.pow 2 (-lastPlace _).toNat)
      (_ * Nat.pow 2 (lastPlace _).toNat)) _ = _
    simp only [Nat.pow_eq]
    rw [roundDiv_eq (by positivity), div_mul_zpow_neg]

end Exponents

section Ranges

variable {x : ℚ}

/-- Below the normal range the last place is that of the smallest double. -/
theorem lastPlace_of_lt (hpos : 0 < x) (h : x < 2 ^ (-1021 : ℤ)) : lastPlace x = -1074 := by
  have hlog := (Int.lt_zpow_iff_log_lt (b := 2) one_lt_two hpos).mp h
  unfold lastPlace
  omega

/-- Below half of the smallest double the nearest one is zero. -/
theorem nearestBits_eq_zero (hpos : 0 < x) (h : x < 2 ^ (-1075 : ℤ)) : nearestBits x = 0 := by
  have hplace : lastPlace x = -1074 :=
    lastPlace_of_lt hpos (h.trans (zpow_lt_zpow_right₀ one_lt_two (by norm_num)))
  have hhalf : x * 2 ^ (-(-1074) : ℤ) < 1 / 2 := by
    calc x * 2 ^ (-(-1074) : ℤ) < 2 ^ (-1075 : ℤ) * 2 ^ (-(-1074) : ℤ) := by gcongr
      _ = 1 / 2 := by
        rw [← zpow_add₀ two_ne_zero]
        norm_num
  rw [nearestBits, if_neg hpos.ne', hplace, roundEven_eq_zero hhalf]
  rfl

/-- From the first power of two behind the doubles on, the nearest one is infinite. -/
theorem nearestBits_eq_infinity (h : 2 ^ 1024 ≤ x) : nearestBits x = infinityBits := by
  have hpos : 0 < x := lt_of_lt_of_le (by positivity) h
  have hlog : 1024 ≤ Int.log 2 x := (Int.zpow_le_iff_le_log (b := 2) one_lt_two hpos).mp h
  have hplace : lastPlace x = Int.log 2 x - 52 := by
    unfold lastPlace
    omega
  have hunits : ((2 ^ 52 : ℕ) : ℚ) ≤ x * 2 ^ (-lastPlace x) := by
    calc ((2 ^ 52 : ℕ) : ℚ) = 2 ^ Int.log 2 x * 2 ^ (-lastPlace x) := by
          rw [← zpow_add₀ two_ne_zero, hplace]
          norm_num
      _ ≤ x * 2 ^ (-lastPlace x) := by
          have := Int.zpow_log_le_self (b := 2) one_lt_two hpos
          gcongr
          exact_mod_cast this
  have hround := le_roundEven hunits
  rw [nearestBits, if_neg hpos.ne']
  refine min_eq_right ?_
  unfold infinityBits
  omega

end Ranges

section Decimals

variable {m m' : ℕ} {e e' : ℤ}

/-- The double nearest to a decimal is that of its value. -/
theorem nearest_eq (m : ℕ) (e : ℤ) : nearest m e = nearestBits (m * 10 ^ e) := by
  rcases Nat.eq_zero_or_pos m with rfl | hm
  · simp [nearest, nearestBits]
  have hpos : (0 : ℚ) < m * 10 ^ e := by positivity
  unfold nearest
  split_ifs with hlow hhigh
  · -- so small that no quotient is formed; a tenth is less than an eighth
    refine (nearestBits_eq_zero hpos ?_).symm
    have he : e < 0 := by omega
    have hten : (10 : ℚ) ^ e ≤ 2 ^ (3 * e) := by
      obtain ⟨n, rfl⟩ : ∃ n : ℕ, e = -n := ⟨e.natAbs, by omega⟩
      rw [zpow_mul, zpow_neg, zpow_neg, zpow_natCast, zpow_natCast]
      exact inv_anti₀ (by positivity) (pow_le_pow_left₀ (by norm_num) (by norm_num) n)
    calc (m * 10 ^ e : ℚ) < 2 ^ ((m.log2 : ℤ) + 1) * 10 ^ e :=
          mul_lt_mul_of_pos_right (lt_zpow_log2 m) (by positivity)
      _ ≤ 2 ^ ((m.log2 : ℤ) + 1) * 2 ^ (3 * e) := by gcongr
      _ = 2 ^ ((m.log2 : ℤ) + 1 + 3 * e) := (zpow_add₀ two_ne_zero _ _).symm
      _ ≤ 2 ^ (-1075 : ℤ) := zpow_le_zpow_right₀ one_le_two (by omega)
  · refine (nearestBits_eq_infinity ?_).symm
    have hrange : (2 : ℕ) ^ 1024 ≤ 10 ^ 310 := by decide +kernel
    calc (2 : ℚ) ^ (1024 : ℤ) ≤ 10 ^ (310 : ℤ) := by exact_mod_cast hrange
      _ ≤ 10 ^ e := zpow_le_zpow_right₀ (by norm_num) (by omega)
      _ ≤ m * 10 ^ e := le_mul_of_one_le_left (by positivity) (by exact_mod_cast hm)
  · simp only [Nat.pow_eq]
    rw [nearestQuotient_eq (by positivity), zpow_eq_div]
    push_cast
    rw [mul_div_assoc]

/-- Decimals of one value have one nearest double. -/
theorem nearest_congr (h : (m * 10 ^ e : ℚ) = m' * 10 ^ e') : nearest m e = nearest m' e' := by
  rw [nearest_eq, nearest_eq, h]

end Decimals

section Doubles

variable {bits m : ℕ} {q : ℤ}

def value (bits : ℕ) : ℚ :=
  (unpack bits).1 * 2 ^ (unpack bits).2

theorem log_eq {x : ℚ} {k : ℤ} (hlow : 2 ^ k ≤ x) (hhigh : x < 2 ^ (k + 1)) : Int.log 2 x = k := by
  have hpos : 0 < x := lt_of_lt_of_le (by positivity) hlow
  have hle := (Int.zpow_le_iff_le_log (b := 2) one_lt_two hpos).mp hlow
  have hlt := (Int.lt_zpow_iff_log_lt (b := 2) one_lt_two hpos).mp hhigh
  omega

/-- A normal significand ends in its own last place. -/
theorem lastPlace_of_normal (hlow : 2 ^ 52 ≤ m) (hhigh : m < 2 ^ 53) (hq : -1074 ≤ q) :
    lastPlace (m * 2 ^ q) = q := by
  have hlow' : (2 : ℚ) ^ (52 : ℤ) ≤ m := by exact_mod_cast hlow
  have hhigh' : (m : ℚ) < 2 ^ (53 : ℤ) := by exact_mod_cast hhigh
  have hlog : Int.log 2 (m * 2 ^ q : ℚ) = 52 + q := by
    refine log_eq ?_ ?_
    · rw [zpow_add₀ two_ne_zero]
      gcongr
    · have hsplit : (52 + q + 1 : ℤ) = 53 + q := by ring
      rw [hsplit, zpow_add₀ two_ne_zero]
      gcongr
  unfold lastPlace
  omega

/-- A significand counts the units of its last place. -/
theorem nearestBits_units (hm : 0 < m)
    (hplace : lastPlace (m * 2 ^ q) = q) :
    nearestBits (m * 2 ^ q) = min ((q + 1074).toNat * 2 ^ 52 + m) infinityBits := by
  have hne : (m * 2 ^ q : ℚ) ≠ 0 := by positivity
  have hunits : (m * 2 ^ q : ℚ) * 2 ^ (-q) = m := by
    rw [mul_assoc, ← zpow_add₀ two_ne_zero, add_neg_cancel, zpow_zero, mul_one]
  rw [nearestBits, if_neg hne, hplace, hunits, roundEven_natCast]

/-- A double is nearest to itself. -/
theorem nearestBits_value (hpos : 0 < bits) (hfinite : bits < infinityBits) :
    nearestBits (value bits) = bits := by
  have hsplit : bits / 2 ^ 52 * 2 ^ 52 + bits % 2 ^ 52 = bits := Nat.div_add_mod' bits _
  have hfraction : bits % 2 ^ 52 < 2 ^ 52 := Nat.mod_lt _ (by norm_num)
  unfold value unpack
  simp only [Nat.pow_eq]
  split_ifs with hfield
  · -- a subnormal double counts units of the smallest one
    have hbits : bits % 2 ^ 52 = bits := by omega
    rw [hbits, nearestBits_units hpos, Int.add_left_neg]
    · omega
    · refine lastPlace_of_lt (by positivity) ?_
      calc (bits * 2 ^ (-1074 : ℤ) : ℚ) < 2 ^ (52 : ℤ) * 2 ^ (-1074 : ℤ) := by
            have : (bits : ℚ) < 2 ^ (52 : ℤ) := by
              have hlt : bits < 2 ^ 52 := by omega
              exact_mod_cast hlt
            gcongr
        _ ≤ 2 ^ (-1021 : ℤ) := by
            rw [← zpow_add₀ two_ne_zero]
            exact zpow_le_zpow_right₀ one_le_two (by norm_num)
  · rw [nearestBits_units (by positivity)]
    · unfold infinityBits at hfinite ⊢
      omega
    · exact lastPlace_of_normal (by omega) (by omega) (by omega)

/-- The exact decimal of a double has the value of the double. -/
theorem exact_value (bits : ℕ) : ((exact bits).1 * 10 ^ (exact bits).2 : ℚ) = value bits := by
  unfold exact value
  simp only [Nat.pow_eq]
  split_ifs with hplace
  · obtain ⟨n, hn⟩ : ∃ n : ℕ, (unpack bits).2 = -n := ⟨(unpack bits).2.natAbs, by omega⟩
    have hten : (10 : ℚ) ^ n = 2 ^ n * 5 ^ n := by rw [← mul_pow]; norm_num
    simp only [hn, neg_neg, Int.toNat_natCast, zpow_neg, zpow_natCast, hten]
    push_cast
    field_simp
  · obtain ⟨n, hn⟩ : ∃ n : ℕ, (unpack bits).2 = n := ⟨(unpack bits).2.toNat, by omega⟩
    simp [hn]

/-- A finite double is the nearest one to its own exact decimal. -/
theorem nearest_exact (hpos : 0 < bits) (hfinite : bits < infinityBits) :
    nearest (exact bits).1 (exact bits).2 = bits := by
  rw [nearest_eq, exact_value, nearestBits_value hpos hfinite]

/-- The decimal that is chosen for a double is one that reads back, or exact. -/
theorem shortestPlace_cases (tie : Tie) (bits : ℕ) :
    (∃ n : ℕ, n < 17 ∧ ∃ m, shortestPlace tie bits =
        (m, decimalExponent (quotient bits).1 (quotient bits).2 - n) ∧
      candidate tie bits (decimalExponent (quotient bits).1 (quotient bits).2 - n) = some m) ∨
      shortestPlace tie bits = exact bits := by
  unfold shortestPlace
  dsimp only
  cases hfound : (List.range 17).findSome? fun (n : ℕ) =>
      (candidate tie bits (decimalExponent (quotient bits).1 (quotient bits).2 - n)).map fun m =>
        (m, decimalExponent (quotient bits).1 (quotient bits).2 - (n : ℤ)) with
  | none => exact Or.inr rfl
  | some found =>
      obtain ⟨n, hn, hmap⟩ := List.exists_of_findSome?_eq_some hfound
      obtain ⟨m, hm, rfl⟩ := Option.map_eq_some_iff.mp hmap
      exact Or.inl ⟨n, List.mem_range.mp hn, m, rfl, hm⟩

/-- The decimal that is chosen for a double reads back. -/
theorem nearest_shortestPlace (tie : Tie) (hpos : 0 < bits) (hfinite : bits < infinityBits) :
    nearest (shortestPlace tie bits).1 (shortestPlace tie bits).2 = bits := by
  obtain ⟨n, -, m, hplace, hcandidate⟩ | hexact := shortestPlace_cases tie bits
  · rw [hplace]
    exact nearest_of_candidate hcandidate
  · rw [hexact]
    exact nearest_exact hpos hfinite

end Doubles

section Bounds

variable {bits m : ℕ} {e : ℤ}

/-- A decimal next to a positive finite double is positive and below the overflow. -/
theorem lt_of_nearest (h : nearest m e = bits) (hpos : 0 < bits) (hfinite : bits < infinityBits) :
    0 < m ∧ (m * 10 ^ e : ℚ) < 2 ^ 1024 := by
  subst h
  refine ⟨Nat.pos_of_ne_zero fun hm => ?_, lt_of_not_ge fun hlarge => ?_⟩
  · simp [hm, nearest] at hpos
  · rw [nearest_eq, nearestBits_eq_infinity hlarge] at hfinite
    exact lt_irrefl _ hfinite

theorem le_of_nearest (h : nearest m e = bits) (hpos : 0 < bits) (hfinite : bits < infinityBits) :
    e ≤ 310 := by
  obtain ⟨hm, hlt⟩ := lt_of_nearest h hpos hfinite
  by_contra he
  have hrange : (2 : ℕ) ^ 1024 ≤ 10 ^ 310 := by decide +kernel
  refine absurd hlt (not_lt.mpr ?_)
  calc (2 : ℚ) ^ (1024 : ℤ) ≤ 10 ^ (310 : ℤ) := by exact_mod_cast hrange
    _ ≤ 10 ^ e := zpow_le_zpow_right₀ (by norm_num) (by omega)
    _ ≤ m * 10 ^ e := le_mul_of_one_le_left (by positivity) (by exact_mod_cast hm)

/-- Significands have 53 bits, and no exponent is below that of the smallest double. -/
theorem unpack_bounds (bits : ℕ) : (unpack bits).1 < 2 ^ 53 ∧ -1074 ≤ (unpack bits).2 := by
  have hfraction : bits % 2 ^ 52 < 2 ^ 52 := Nat.mod_lt _ (by norm_num)
  unfold unpack
  simp only [Nat.pow_eq]
  split_ifs with hfield
  · exact ⟨by omega, le_refl _⟩
  · exact ⟨by omega, by omega⟩

theorem quotient_den_le {k : ℕ} (h : 1074 ≤ k) (bits : ℕ) : (quotient bits).2 ≤ 2 ^ k := by
  have hplace := (unpack_bounds bits).2
  have hquotient : (quotient bits).2 = 2 ^ (-(unpack bits).2).toNat := rfl
  have hexponent : (-(unpack bits).2).toNat ≤ k := by omega
  rw [hquotient]
  exact Nat.pow_le_pow_right two_pos hexponent

/-- The first digit of a double has at least the place of that of the smallest double. -/
theorem le_decimalExponent (bits : ℕ) :
    -324 ≤ decimalExponent (quotient bits).1 (quotient bits).2 := by
  have hrange : (2 : ℕ) ^ 1074 < 10 ^ 324 := by decide +kernel
  have hden := (quotient_den_le (le_refl 1074) bits).trans_lt hrange
  have hsmall : ((quotient bits).2 - 1) / (quotient bits).1 < 10 ^ 324 :=
    (Nat.div_le_self _ _).trans_lt ((Nat.sub_le _ _).trans_lt hden)
  have hlength := length_toDigits_le (by norm_num) hsmall
  clear hrange hden hsmall
  unfold decimalExponent
  split_ifs
  · omega
  · omega

theorem exact_lt (hsmall : ((exact bits).1 * 10 ^ (exact bits).2 : ℚ) < 2 ^ 1024) :
    (exact bits).1 < 10 ^ 767 ∧ -1074 ≤ (exact bits).2 := by
  obtain ⟨hsignificand, hplace⟩ := unpack_bounds bits
  unfold exact at hsmall ⊢
  simp only [Nat.pow_eq] at hsmall ⊢
  split_ifs at hsmall ⊢ with hnegative
  · have hexponent : (-(unpack bits).2).toNat ≤ 1074 := by
      clear hsmall
      omega
    have hpower : ∀ k, (-(unpack bits).2).toNat ≤ k → 5 ^ (-(unpack bits).2).toNat ≤ 5 ^ k :=
      fun k hk => Nat.pow_le_pow_right (by norm_num) hk
    have hrange : (2 : ℕ) ^ 53 * 5 ^ 1074 < 10 ^ 767 := by decide +kernel
    exact ⟨(Nat.mul_le_mul hsignificand.le (hpower 1074 hexponent)).trans_lt hrange, hplace⟩
  · have hrange : (2 : ℕ) ^ 1024 < 10 ^ 767 := by decide +kernel
    rw [zpow_zero, mul_one] at hsmall
    refine ⟨lt_trans ?_ hrange, by norm_num⟩
    exact_mod_cast hsmall

theorem candidate_lt (he : -340 ≤ e) (hsmall : (m * 10 ^ e : ℚ) < 2 ^ 1024) : m < 10 ^ 767 := by
  have hpower : (10 : ℚ) ^ (-340 : ℤ) ≤ 10 ^ e := zpow_le_zpow_right₀ (by norm_num) he
  have hm := (mul_le_mul_of_nonneg_left hpower (Nat.cast_nonneg m)).trans_lt hsmall
  have hrange : (2 : ℕ) ^ 1024 * 10 ^ 340 < 10 ^ 767 := by decide +kernel
  rw [zpow_neg, ← div_eq_mul_inv, div_lt_iff₀ (by positivity)] at hm
  refine lt_trans ?_ hrange
  exact_mod_cast hm

/-- The decimal that is chosen for a double has at most 767 digits, the last one not below the last
place of a double. -/
theorem shortestPlace_bounds (tie : Tie) (hpos : 0 < bits) (hfinite : bits < infinityBits) :
    (shortestPlace tie bits).1 < 10 ^ 767 ∧ -1074 ≤ (shortestPlace tie bits).2 := by
  have hreads := lt_of_nearest (nearest_shortestPlace tie hpos hfinite) hpos hfinite
  obtain ⟨n, hn, m, hfound, -⟩ | hexact := shortestPlace_cases tie bits
  · have hreach : -340 ≤ decimalExponent (quotient bits).1 (quotient bits).2 - n := by
      have := le_decimalExponent bits
      clear hreads
      omega
    rw [hfound] at hreads ⊢
    exact ⟨candidate_lt hreach hreads.2, le_trans (by norm_num) hreach⟩
  · rw [hexact] at hreads ⊢
    exact exact_lt hreads.2

end Bounds

end Hyperparams.Decimal

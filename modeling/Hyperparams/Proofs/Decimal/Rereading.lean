import Hyperparams.Decimal.Layout
import Hyperparams.Proofs.Decimal.Literals
import Hyperparams.Proofs.Decimal.Rounding

/-!
# Reading the text of a double

A layout writes the digits of the decimal that is chosen for a double, with a point or an exponent
that says where they stand. The text is a literal whose value is that decimal, and the decimal reads
back as the double; so the text is read as the double.
-/

namespace Hyperparams.Decimal

section Values

variable {l : Literal} {ds : List Char} {m : ℕ} {e : ℤ} {negative : Bool}

/-- Below the limit no digit of an exponent is ignored. -/
theorem foldl_exponent {n : ℕ}
    (h : ds.foldl (fun n c => 10 * n + digit c) n < Literal.exponentLimit) :
    ds.foldl (fun n c => if n < Literal.exponentLimit then 10 * n + digit c else n) n =
      ds.foldl (fun n c => 10 * n + digit c) n := by
  induction ds generalizing n with
  | nil => rfl
  | cons c ds ih =>
      have hle : 10 * n + digit c ≤ _ := le_foldl_digits ds (10 * n + digit c)
      have hn : n < Literal.exponentLimit := by
        rw [List.foldl_cons] at h
        omega
      rw [List.foldl_cons, List.foldl_cons, if_pos hn, ih h]

/-- An exponent below the limit counts in full. -/
theorem exponentMagnitude_toDigits {n : ℕ} (h : n < Literal.exponentLimit) :
    Literal.exponentMagnitude (toDigits n) = n := by
  have hvalue : (toDigits n).foldl (fun n c => 10 * n + digit c) 0 = n := ofDigits_toDigits n
  rw [Literal.exponentMagnitude, foldl_exponent (by rwa [hvalue]), hvalue]

namespace Literal

def digits (l : Literal) : List Char :=
  l.whole ++ l.fraction.getD []

/-- A literal has the value of a decimal, few digits, and a point or an exponent. -/
structure Denotes (l : Literal) (m : ℕ) (e : ℤ) : Prop where
  isInteger : l.isInteger = false
  short : l.digits.length ≤ decisiveDigits
  value : (ofDigits l.digits * 10 ^ (l.exponentValue - (l.fraction.getD []).length) : ℚ) =
    m * 10 ^ e

/-- A literal is read as the double next to the decimal that it denotes. -/
theorem Denotes.toFloat_eq (h : l.Denotes m e) : l.toFloat = Decimal.toFloat l.negative m e := by
  have hlength : (l.digits.dropWhile (· == '0')).length ≤ decisiveDigits :=
    (List.length_dropWhile_le _ _).trans h.short
  have hrest : (l.digits.dropWhile (· == '0')).drop decisiveDigits = [] :=
    List.drop_eq_nil_of_le hlength
  have hread : l.toFloat = Decimal.toFloat l.negative (ofDigits (l.digits.dropWhile (· == '0')))
      (l.exponentValue - (l.fraction.getD []).length) := by
    unfold toFloat
    dsimp only
    unfold digits at hrest
    rw [hrest]
    rfl
  rw [hread, ofDigits_dropWhile]
  unfold Decimal.toFloat
  rw [nearest_congr h.value]

end Literal

end Values

section Digits

variable {m : ℕ} {place : ℤ}

/-- The digits of a positive decimal in scientific form. -/
structure Scientific.Denotes (s : Scientific) (m : ℕ) (place : ℤ) : Prop where
  nonempty : s.digits ≠ []
  isDigit : ∀ c ∈ s.digits, c.isDigit = true
  value : (ofDigits s.digits * 10 ^ (s.exponent + 1 - s.digits.length) : ℚ) = m * 10 ^ place

/-- Digits in front of trailing zeros. -/
theorem exists_zeros (ds : List Char) :
    ∃ n, ds = (ds.reverse.dropWhile (· == '0')).reverse ++ List.replicate n '0' := by
  refine ⟨(ds.reverse.takeWhile (· == '0')).length, ?_⟩
  have hzeros : ds.reverse.takeWhile (· == '0') =
      List.replicate (ds.reverse.takeWhile (· == '0')).length '0' :=
    List.eq_replicate_of_mem fun c hc => by simpa using List.mem_takeWhile_imp hc
  have hsplit := List.takeWhile_append_dropWhile (p := (· == '0')) (l := ds.reverse)
  rw [← List.reverse_replicate, ← hzeros, ← List.reverse_append, hsplit, List.reverse_reverse]

/-- Trailing zeros only move the place. -/
theorem denotes_ofPlace (hm : 0 < m) : (Scientific.ofPlace m place).Denotes m place := by
  obtain ⟨n, hn⟩ := exists_zeros (toDigits m)
  have hdigits := (isDigits_iff.mp (isDigits_toDigits m)).2
  have hvalue : ofDigits (Scientific.ofPlace m place).digits * 10 ^ n = m := by
    have h := ofDigits_toDigits m
    rw [hn, ofDigits_append, ofDigits_zeros, List.length_replicate, add_zero] at h
    exact h
  have hlength : (toDigits m).length = (Scientific.ofPlace m place).digits.length + n := by
    have h := congrArg List.length hn
    rwa [List.length_append, List.length_replicate] at h
  have hexponent : (Scientific.ofPlace m place).exponent + 1 -
      (Scientific.ofPlace m place).digits.length = n + place := by
    have h : (Scientific.ofPlace m place).exponent = place + (toDigits m).length - 1 := rfl
    rw [h, hlength]
    push_cast
    ring
  refine ⟨fun hnil => ?_, fun c hc => hdigits c ?_, ?_⟩
  · rw [hnil] at hvalue
    simp [ofDigits] at hvalue
    omega
  · rw [hn]
    exact List.mem_append_left _ hc
  · rw [hexponent, zpow_add₀ (by norm_num), zpow_natCast, ← mul_assoc]
    congr 1
    exact_mod_cast hvalue

/-- Dropping trailing zeros leaves no more digits than the number has. -/
theorem length_ofPlace_le {k : ℕ} (hk : 0 < k) (h : m < 10 ^ k) (place : ℤ) :
    (Scientific.ofPlace m place).digits.length ≤ k := by
  obtain ⟨n, hn⟩ := exists_zeros (toDigits m)
  have hlength := congrArg List.length hn
  rw [List.length_append] at hlength
  have hle := length_toDigits_le hk h
  have hdigits : (Scientific.ofPlace m place).digits =
      ((toDigits m).reverse.dropWhile (· == '0')).reverse := rfl
  rw [hdigits]
  omega

end Digits

section Layouts

variable {s : Scientific} {m : ℕ} {place : ℤ} {negative : Bool} {sign : List Char}

theorem ofDigits_append_zeros (ds : List Char) (n : ℕ) :
    ofDigits (ds ++ List.replicate n '0') = ofDigits ds * 10 ^ n := by
  rw [ofDigits_append, ofDigits_zeros, List.length_replicate, add_zero]

theorem ofDigits_zeros_append (ds : List Char) (n : ℕ) :
    ofDigits (List.replicate n '0' ++ ds) = ofDigits ds := by
  rw [ofDigits_append, ofDigits_zeros, zero_mul, zero_add]

theorem isDigit_zeros (n : ℕ) : ∀ c ∈ List.replicate n '0', c.isDigit = true := by
  intro c hc
  rw [List.eq_of_mem_replicate hc]
  decide

/-- Digits around a point, without an exponent. -/
theorem exists_literal (whole fraction : List Char) (hsign : SpellsSign sign negative)
    (hwhole : ∀ c ∈ whole, c.isDigit = true) (hfraction : ∀ c ∈ fraction, c.isDigit = true)
    (hne : whole ≠ []) (hshort : whole.length + fraction.length ≤ Literal.decisiveDigits)
    (hvalue : (ofDigits (whole ++ fraction) * 10 ^ (-fraction.length : ℤ) : ℚ) = m * 10 ^ place) :
    ∃ l : Literal, l.Spells (sign ++ (whole ++ '.' :: fraction)) ∧ l.negative = negative ∧
      l.Denotes m place := by
  refine ⟨⟨negative, whole, some fraction, none⟩, ?_, rfl, ⟨rfl, ?_, ?_⟩⟩
  · exact ⟨sign, '.' :: fraction, [], by simp, hsign, hwhole, .point hfraction, .none,
      by simp [hne]⟩
  · simpa [Literal.digits] using hshort
  · simpa [Literal.digits, Literal.exponentValue] using hvalue

/-- Digits written around a point are a literal of the same value. -/
theorem exists_positional (h : s.Denotes m place) (hsign : SpellsSign sign negative)
    (hdigits : s.digits.length ≤ 767) (hexponent : -32 ≤ s.exponent ∧ s.exponent < 32) :
    ∃ l : Literal, l.Spells (sign ++ s.positional true) ∧ l.negative = negative ∧
      l.Denotes m place := by
  obtain ⟨hne, hdigit, hvalue⟩ := h
  have hlimit : Literal.decisiveDigits = 800 := rfl
  have hpositive : 0 < s.digits.length := List.length_pos_of_ne_nil hne
  simp only [Scientific.positional, if_true]
  split_ifs with hsmall hwhole
  · -- zeros stand between the point and the digits
    refine exists_literal ['0'] (List.replicate (-s.exponent - 1).toNat '0' ++ s.digits) hsign
      (by simp) (List.forall_mem_append.mpr ⟨isDigit_zeros _, hdigit⟩) (by simp) ?_ ?_
    · simp only [List.length_append, List.length_replicate, List.length_singleton]
      omega
    · have hplace : -((List.replicate (-s.exponent - 1).toNat '0' ++ s.digits).length : ℤ) =
          s.exponent + 1 - s.digits.length := by
        simp only [List.length_append, List.length_replicate]
        omega
      have hzero : ofDigits (['0'] ++ (List.replicate (-s.exponent - 1).toNat '0' ++ s.digits)) =
          ofDigits s.digits := by
        rw [ofDigits_append, ofDigits_zeros_append]
        simp [ofDigits, digit]
      rw [hplace, hzero, hvalue]
  · -- zeros stand between the digits and the point
    refine exists_literal (s.digits ++ List.replicate (s.exponent.toNat + 1 - s.digits.length) '0')
      ['0'] hsign (List.forall_mem_append.mpr ⟨hdigit, isDigit_zeros _⟩) (by simp) (by simp [hne])
      ?_ ?_
    · simp only [List.length_append, List.length_replicate, List.length_singleton]
      omega
    · have hdigits' : ofDigits (s.digits ++
          List.replicate (s.exponent.toNat + 1 - s.digits.length) '0' ++ ['0']) =
            ofDigits s.digits * 10 ^ (s.exponent.toNat + 1 - s.digits.length) * 10 := by
        rw [ofDigits_append, ofDigits_append_zeros]
        simp [ofDigits, digit]
      have hplace : s.exponent + 1 - s.digits.length =
          ((s.exponent.toNat + 1 - s.digits.length : ℕ) : ℤ) := by omega
      rw [hplace, zpow_natCast] at hvalue
      rw [hdigits', ← hvalue]
      push_cast
      simp
  · -- the point stands between the digits
    refine exists_literal (s.digits.take (s.exponent.toNat + 1))
      (s.digits.drop (s.exponent.toNat + 1)) hsign
      (fun c hc => hdigit c (List.mem_of_mem_take hc))
      (fun c hc => hdigit c (List.mem_of_mem_drop hc)) (by simp [hne]) ?_ ?_
    · simp only [List.length_take, List.length_drop]
      omega
    · have hplace : -((s.digits.drop (s.exponent.toNat + 1)).length : ℤ) =
          s.exponent + 1 - s.digits.length := by
        simp only [List.length_drop]
        omega
      rw [List.take_append_drop, hplace, hvalue]

/-- A digit, further digits and an exponent are a literal of the same value. -/
theorem exists_exponential (h : s.Denotes m place) (hsign : SpellsSign sign negative) (plus : Bool)
    (hdigits : s.digits.length ≤ 767) (hexponent : s.exponent.natAbs < Literal.exponentLimit) :
    ∃ l : Literal, l.Spells (sign ++ s.exponential plus) ∧ l.negative = negative ∧
      l.Denotes m place := by
  obtain ⟨hne, hdigit, hvalue⟩ := h
  obtain ⟨digits, exponent⟩ := s
  dsimp only at hne hdigit hvalue hdigits hexponent
  obtain ⟨d, rest, rfl⟩ := List.exists_cons_of_ne_nil hne
  obtain ⟨hd, hrest⟩ := List.forall_mem_cons.mp hdigit
  obtain ⟨hpowerne, hpower⟩ := isDigits_iff.mp (isDigits_toDigits exponent.natAbs)
  -- a fraction is only written if there are digits behind the first
  obtain ⟨fraction, point, hfraction, hpoint, hgetD⟩ : ∃ fraction point,
      SpellsFraction fraction point ∧ (if rest.isEmpty then [] else '.' :: rest) = fraction ∧
        point.getD [] = rest := by
    cases rest with
    | nil => exact ⟨[], none, .none, rfl, rfl⟩
    | cons c rest => exact ⟨'.' :: c :: rest, some (c :: rest), .point hrest, rfl, rfl⟩
  have hpowersign : SpellsSign (if exponent < 0 then ['-'] else if plus then ['+'] else [])
      (decide (exponent < 0)) := by
    split_ifs with hsmall hplus
    · rw [decide_eq_true hsmall]
      exact .minus
    · rw [decide_eq_false hsmall]
      exact .plus
    · rw [decide_eq_false hsmall]
      exact .none
  refine ⟨⟨negative, [d], point, some (decide (exponent < 0), toDigits exponent.natAbs)⟩, ?_, rfl,
    ⟨by simp [Literal.isInteger], ?_, ?_⟩⟩
  · refine ⟨sign, fraction, _, ?_, hsign, by simpa using hd, hfraction,
      .mark (Or.inl rfl) hpowersign hpowerne hpower, by simp⟩
    simpa [Scientific.exponential] using hpoint
  · have hlimit : Literal.decisiveDigits = 800 := rfl
    rw [Literal.digits, hgetD, List.singleton_append, hlimit]
    omega
  · have hmagnitude := exponentMagnitude_toDigits hexponent
    have hpowervalue : (if decide (exponent < 0) = true then -(exponent.natAbs : ℤ)
        else exponent.natAbs) = exponent := by
      split_ifs with hsmall
      · have := of_decide_eq_true hsmall
        omega
      · have := of_decide_eq_false (Bool.eq_false_iff.mpr hsmall)
        omega
    rw [Literal.digits, hgetD, List.singleton_append, ← hvalue]
    simp only [Literal.exponentValue, hmagnitude, hpowervalue, List.length_cons]
    congr 2
    push_cast
    ring

/-- The text of a finite double is a literal that is read as the double. -/
theorem exists_finite (layout : Layout) {bits : ℕ} (hsign : SpellsSign sign negative)
    (hpoint : layout.point = true)
    (hwindow : ∀ k, layout.positional k = true → -32 ≤ k ∧ k < 32) (hfinite : bits < infinityBits) :
    ∃ l : Literal, l.Spells (sign ++ layout.finite bits) ∧ l.isInteger = false ∧
      l.toFloat = ofMagnitude negative bits := by
  rcases Nat.eq_zero_or_pos bits with rfl | hpos
  · have hzero : layout.finite 0 = ['0'] ++ '.' :: ['0'] := by simp [Layout.finite, hpoint]
    have hvalue : (ofDigits (['0'] ++ ['0']) * 10 ^ (-(['0'].length : ℤ)) : ℚ) =
        (0 : ℕ) * 10 ^ (0 : ℤ) := by simp [ofDigits, digit]
    obtain ⟨l, hspells, hnegative, hdenotes⟩ :=
      exists_literal ['0'] ['0'] hsign (by simp) (by simp) (by simp) (by decide) hvalue
    rw [hzero]
    refine ⟨l, hspells, hdenotes.isInteger, ?_⟩
    rw [hdenotes.toFloat_eq, hnegative]
    rfl
  · have hreads := nearest_shortestPlace layout.tie hpos hfinite
    obtain ⟨hm, hlow⟩ := shortestPlace_bounds layout.tie hpos hfinite
    have htext : layout.finite bits =
        if layout.positional (shortest layout.tie bits).exponent then
          (shortest layout.tie bits).positional true
        else (shortest layout.tie bits).exponential layout.plus := by
      simp [Layout.finite, hpos.ne', hpoint]
    have hshortest : shortest layout.tie bits = Scientific.ofPlace (shortestPlace layout.tie bits).1
        (shortestPlace layout.tie bits).2 := rfl
    rw [htext, hshortest]
    generalize shortestPlace layout.tie bits = chosen at hreads hm hlow
    obtain ⟨m, place⟩ := chosen
    dsimp only at hreads hm hlow ⊢
    have hmpos := (lt_of_nearest hreads hpos hfinite).1
    have hhigh := le_of_nearest hreads hpos hfinite
    have hdigits := length_ofPlace_le (by norm_num) hm place
    have hlength := length_toDigits_le (by norm_num) hm
    clear hm
    have hdenotes : (Scientific.ofPlace m place).Denotes m place := denotes_ofPlace hmpos
    have hexponent : (Scientific.ofPlace m place).exponent = place + (toDigits m).length - 1 := rfl
    have hlimit : Literal.exponentLimit = 65536 := rfl
    have hread : ∃ l : Literal, l.Spells (sign ++
        if layout.positional (Scientific.ofPlace m place).exponent then
          (Scientific.ofPlace m place).positional true
        else (Scientific.ofPlace m place).exponential layout.plus) ∧ l.negative = negative ∧
        l.Denotes m place := by
      split_ifs with hposition
      · exact exists_positional hdenotes hsign hdigits (hwindow _ hposition)
      · exact exists_exponential hdenotes hsign _ hdigits (by omega)
    obtain ⟨l, hspells, hnegative, hvalue⟩ := hread
    refine ⟨l, hspells, hvalue.isInteger, ?_⟩
    rw [hvalue.toFloat_eq, hnegative, Decimal.toFloat, hreads]

end Layouts

section Bits

open Float.Model (Format UnpackedFloat)
open Float.Model.UnpackedFloat (unpackExponent unpackExponent_def unpackMantissa unpackMantissa_def)

variable {x : Float}

/-- A double is put together from its sign and its magnitude. -/
theorem ofMagnitude_magnitude (x : Float) : ofMagnitude (isNegative x) (magnitude x) = x := by
  have hlt : x.toBits.toNat < 2 ^ 64 := x.toBits.toNat_lt
  have hbits : (if isNegative x then signBit + magnitude x else magnitude x) = x.toBits.toNat := by
    simp only [isNegative, magnitude, decide_eq_true_eq]
    unfold signBit
    split_ifs <;> omega
  rw [ofMagnitude, hbits, UInt64.ofNat_toNat, Float.ofBits_toBits]

/-- There is one double that is no number. -/
theorem eq_of_infinityBits_lt (h : infinityBits < magnitude x) : x = 0.0 / 0.0 := by
  have hlt : x.toBits.toNat < 2 ^ 64 := x.toBits.toNat_lt
  unfold magnitude infinityBits signBit at h
  -- all bits of the exponent are set and the fraction is not zero
  have hexponent : @unpackExponent Format.binary64 x.toBits.toBitVec = -1#11 := by
    rw [unpackExponent_def]
    apply BitVec.eq_of_toNat_eq
    rw [BitVec.extractLsb'_toNat, Nat.shiftRight_eq_div_pow]
    change x.toBits.toNat / 2 ^ 52 % 2 ^ 11 = 2047
    omega
  have hmantissa : @unpackMantissa Format.binary64 x.toBits.toBitVec ≠ 0#52 := by
    rw [unpackMantissa_def]
    intro hzero
    have hvalue := congrArg BitVec.toNat hzero
    rw [BitVec.extractLsb'_toNat, Nat.shiftRight_eq_div_pow] at hvalue
    change x.toBits.toNat / 2 ^ 0 % 2 ^ 52 = 0 at hvalue
    omega
  have hpacked := x.toModel.valid.eq_packedNaN hexponent hmantissa
  have hnan : (0.0 / 0.0 : Float).toBits.toBitVec =
      Float.Model.UnpackedFloat.packedNaN Format.binary64 := by decide +kernel
  exact Float.toBits_inj.mp (UInt64.eq_of_toBitVec_eq (hpacked.trans hnan.symm))

/-- A double with the magnitude of infinity is one of the two infinities. -/
theorem eq_of_magnitude_eq_infinityBits (h : magnitude x = infinityBits) :
    x = if isNegative x then -1.0 / 0.0 else 1.0 / 0.0 := by
  have hplus : ofMagnitude false infinityBits = 1.0 / 0.0 := by
    apply Float.toBits_inj.mp
    decide +kernel
  have hminus : ofMagnitude true infinityBits = -1.0 / 0.0 := by
    apply Float.toBits_inj.mp
    decide +kernel
  have hx := ofMagnitude_magnitude x
  rw [h] at hx
  cases hsign : isNegative x with
  | true =>
      rw [hsign, hminus] at hx
      exact hx.symm
  | false =>
      rw [hsign, hplus] at hx
      exact hx.symm

end Bits

end Hyperparams.Decimal

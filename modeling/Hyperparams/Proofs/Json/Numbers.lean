import Mathlib.Data.List.TakeWhile
import Mathlib.Data.Option.Basic
import Hyperparams.Json.Printer
import Hyperparams.Proofs.Documents
import Hyperparams.Proofs.Decimal.Literals
import Hyperparams.Proofs.Json.Lexemes

/-!
# Numbers in documents

A word that is a number is a decimal literal, and one that is read as an integer is in the range of
the words of 64 bits. The text of an integer in that range is read as that integer.
-/

namespace Hyperparams.Json.Number

open Decimal

section Significands

variable {ds : List Char} {s : Nat}

/-- A significand that takes in digits stays a word. -/
theorem absorb_lt (h : s < 2 ^ 64) : (absorb s ds).1 < 2 ^ 64 := by
  induction ds generalizing s with
  | nil => exact h
  | cons c ds ih =>
      by_cases hnext : 10 * s + digit c < Nat.pow 2 64
      · simp only [absorb, hnext, if_true]
        exact ih hnext
      · simp only [absorb, hnext, if_false]
        exact h

/-- Digits that stay in range are all absorbed. -/
theorem absorb_eq (h : ds.foldl (fun n c => 10 * n + digit c) s < 2 ^ 64) :
    absorb s ds = (ds.foldl (fun n c => 10 * n + digit c) s, []) := by
  induction ds generalizing s with
  | nil => rfl
  | cons c ds ih =>
      have hnext : 10 * s + digit c < Nat.pow 2 64 := lt_of_le_of_lt (le_foldl_digits ds _) h
      simp only [absorb, hnext, if_true]
      exact ih h

end Significands

section Words

variable {cs : List Char} {n : Number}

theorem spells_of_exponent? {exponent : Bool × List Char} (h : exponent? cs = some exponent) :
    SpellsExponent cs (some exponent) := by
  apply readExponent?_eq_some_iff.mp
  cases cs with
  | nil => cases h
  | cons mark rest =>
      have hread : exponent? (mark :: rest) =
          if (mark == 'e' || mark == 'E') && isDigits (splitSign rest).2 then
            some (splitSign rest) else none := rfl
      rw [hread, Option.ite_none_right_eq_some] at h
      obtain ⟨hguard, h⟩ := h
      cases Option.some.inj h
      simp [Literal.readExponent?, hguard]

/-- A number is a double, or an integer in the range of the words of 64 bits. -/
def Ranged : Number → Prop
  | .int i => Int64.minValue.toInt ≤ i ∧ i < UInt64.size
  | .float _ => True

theorem ranged_float_of_bind {x : Option Float}
    (h : (x.bind fun y => pure (Number.float y)) = some n) : n.Ranged := by
  obtain ⟨y, -, hy⟩ := Option.bind_eq_some_iff.mp h
  cases hy
  trivial

/-- A word that is a number is a literal, and the integer it may be is in range. -/
theorem exists_spells (h : ofWord? cs = some n) : (∃ l : Literal, l.Spells cs) ∧ n.Ranged := by
  unfold ofWord? at h
  split at h
  next negative rest hsplit =>
  have hsign : ∃ sign, SpellsSign sign negative ∧ cs = sign ++ rest := by
    split at hsplit <;> cases hsplit
    · exact ⟨['-'], .minus, rfl⟩
    · exact ⟨[], .none, rfl⟩
  obtain ⟨sign, hsign, rfl⟩ := hsign
  simp only [Option.bind_eq_bind, Option.bind_eq_some_iff, Option.guard_eq_some'] at h
  obtain ⟨-, hguard, h⟩ := h
  have hwhole : ∀ c ∈ rest.takeWhile Char.isDigit, c.isDigit = true :=
    fun c hc => List.mem_takeWhile_imp hc
  have hne : rest.takeWhile Char.isDigit ≠ [] := by
    intro hnil
    simp [hnil] at hguard
  have hparts : rest.takeWhile Char.isDigit ++ rest.dropWhile Char.isDigit = rest :=
    List.takeWhile_append_dropWhile
  split at h
  -- digits alone may be an integer, all else is a double
  next hrest =>
    have hlt : (absorb 0 (rest.takeWhile Char.isDigit)).1 < 2 ^ 64 := absorb_lt (by decide)
    rw [hrest, List.append_nil] at hparts
    refine ⟨⟨⟨negative, _, none, none⟩, sign, [], [], by simp [hparts], hsign, hwhole, .none, .none,
      by simpa using hne⟩, ?_⟩
    split_ifs at h with hdropped hpositive hfloat
    · exact ranged_float_of_bind h
    · cases h
      change (-9223372036854775808 : Int) ≤ _ ∧ _ < 18446744073709551616
      omega
    · cases h
      trivial
    · cases h
      simp only [Nat.pow_eq, Bool.or_eq_true, decide_eq_true_eq, not_or, not_lt] at hfloat
      change (-9223372036854775808 : Int) ≤ _ ∧ _ < 18446744073709551616
      omega
  next after hrest =>
    obtain ⟨-, hfraction, h⟩ := Option.bind_eq_some_iff.mp h
    have hdigits : ∀ c ∈ after.takeWhile Char.isDigit, c.isDigit = true :=
      fun c hc => List.mem_takeWhile_imp hc
    have hafter : after.takeWhile Char.isDigit ++ after.dropWhile Char.isDigit = after :=
      List.takeWhile_append_dropWhile
    rw [hrest] at hparts
    split at h
    next hend =>
      rw [hend, List.append_nil] at hafter
      refine ⟨⟨⟨negative, _, some _, none⟩, sign, _, [], ?_, hsign, hwhole, .point hdigits, .none,
        by simp [hne]⟩, ranged_float_of_bind h⟩
      simp [hafter, hparts]
    · obtain ⟨exponent, hexponent, h⟩ := Option.bind_eq_some_iff.mp h
      refine ⟨⟨⟨negative, _, some _, some exponent⟩, sign, _, _, ?_, hsign, hwhole, .point hdigits,
        spells_of_exponent? hexponent, by simp [hne]⟩, ranged_float_of_bind h⟩
      simp [hafter, hparts]
  next hrest hpoint =>
    obtain ⟨exponent, hexponent, h⟩ := Option.bind_eq_some_iff.mp h
    refine ⟨⟨⟨negative, _, none, some exponent⟩, sign, [], _, ?_, hsign, hwhole, .none,
      spells_of_exponent? hexponent, by simpa using hne⟩, ranged_float_of_bind h⟩
    simp [hparts]

end Words

section Integers

variable {ds : List Char}

theorem takeWhile_digits (h : isDigits ds = true) :
    ds.takeWhile Char.isDigit = ds ∧ ds.dropWhile Char.isDigit = [] := by
  have hdigits := (isDigits_iff.mp h).2
  exact ⟨List.takeWhile_eq_self_iff.mpr hdigits, List.dropWhile_eq_nil_iff.mpr hdigits⟩

/-- Digits in range, without a leading zero, are an integer. -/
theorem ofWord?_digits (h : isDigits ds = true) (hlead : ds.head? ≠ some '0' ∨ ds.length = 1)
    (hlt : ofDigits ds < 2 ^ 64) : ofWord? ds = some (.int (ofDigits ds)) := by
  obtain ⟨htake, hdrop⟩ := takeWhile_digits h
  obtain ⟨hne, hdigits⟩ := isDigits_iff.mp h
  have habsorb : absorb 0 ds = (ofDigits ds, []) := absorb_eq hlt
  unfold ofWord?
  split
  next negative rest hsplit =>
  split at hsplit
  next tail => exact absurd rfl (not_sign_of_digit (hdigits '-' List.mem_cons_self)).1
  · cases hsplit
    rw [htake, hdrop]
    simp [habsorb, hne, hlead]

/-- A minus and digits of a positive number in range are a negative integer. -/
theorem ofWord?_minus (h : isDigits ds = true) (hlead : ds.head? ≠ some '0' ∨ ds.length = 1)
    (hpos : ofDigits ds ≠ 0) (hle : ofDigits ds ≤ 2 ^ 63) :
    ofWord? ('-' :: ds) = some (.int (-(ofDigits ds : Int))) := by
  obtain ⟨htake, hdrop⟩ := takeWhile_digits h
  obtain ⟨hne, hdigits⟩ := isDigits_iff.mp h
  have habsorb : absorb 0 ds = (ofDigits ds, []) := absorb_eq (lt_of_le_of_lt hle (by decide))
  simp only [ofWord?]
  rw [htake, hdrop]
  simpa [habsorb, hne, hlead, hpos] using hle

theorem toList_toString_ofNat (m : Nat) : (toString (m : Int)).toList = toDigits m :=
  toList_toString m

theorem toList_toString_negSucc (m : Nat) :
    (toString (Int.negSucc m)).toList = '-' :: toDigits (m + 1) := by
  have htext : toString (Int.negSucc m) = "-" ++ toString (m + 1) := rfl
  rw [htext, String.toList_append, toList_toString]
  rfl

/-- The text of an integer in range is read as the integer. -/
theorem ofWord?_toString {i : Int} (h : (Number.int i).Ranged) :
    ofWord? (toString i).toList = some (.int i) := by
  change (-9223372036854775808 : Int) ≤ i ∧ i < 18446744073709551616 at h
  cases i with
  | ofNat m =>
      rw [Int.ofNat_eq_natCast] at h ⊢
      rw [toList_toString_ofNat,
        ofWord?_digits (isDigits_toDigits m) (head?_toDigits m), ofDigits_toDigits]
      rw [ofDigits_toDigits]
      omega
  | negSucc m =>
      rw [toList_toString_negSucc, ofWord?_minus (isDigits_toDigits _) (head?_toDigits _),
        ofDigits_toDigits]
      · rfl
      · rw [ofDigits_toDigits]
        omega
      · rw [ofDigits_toDigits]
        omega

theorem isWordChar_of_digit {c : Char} (h : c.isDigit = true) : isWordChar c = true := by
  simp [isWordChar, Char.isAlphanum, h]

theorem isWordChar_toString (i : Int) : ∀ c ∈ (toString i).toList, isWordChar c = true := by
  have hdigits : ∀ m, ∀ c ∈ toDigits m, isWordChar c = true := fun m c hc =>
    isWordChar_of_digit ((isDigits_iff.mp (isDigits_toDigits m)).2 c hc)
  cases i with
  | ofNat m =>
      rw [Int.ofNat_eq_natCast, toList_toString_ofNat]
      exact hdigits m
  | negSucc m =>
      rw [toList_toString_negSucc]
      exact List.forall_mem_cons.mpr ⟨rfl, hdigits (m + 1)⟩

end Integers

end Hyperparams.Json.Number

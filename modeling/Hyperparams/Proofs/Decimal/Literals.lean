import Mathlib.Data.List.TakeWhile
import Mathlib.Data.Option.Basic
import Hyperparams.Decimal.Literal
import Hyperparams.Proofs.Decimal.Digits

/-!
# The grammar of literals

A literal is spelled as a sign, digits, a fraction and an exponent, of which only a digit in front
of the exponent must be there. Reading accepts exactly the spellings and takes them apart. The value
of an integer literal is what its digits denote, and it is a word exactly if it is in range.
-/

namespace Hyperparams.Decimal

/-- An optional sign; the flag says whether it is a minus. -/
inductive SpellsSign : List Char → Bool → Prop
  | none : SpellsSign [] false
  | plus : SpellsSign ['+'] false
  | minus : SpellsSign ['-'] true

/-- Nothing, or a point and digits. -/
inductive SpellsFraction : List Char → Option (List Char) → Prop
  | none : SpellsFraction [] none
  | point {digits : List Char} : (∀ c ∈ digits, c.isDigit = true) →
      SpellsFraction ('.' :: digits) (some digits)

/-- Nothing, or `e` or `E` with an optional sign and at least one digit. -/
inductive SpellsExponent : List Char → Option (Bool × List Char) → Prop
  | none : SpellsExponent [] none
  | mark {mark : Char} {sign digits : List Char} {negative : Bool} : mark = 'e' ∨ mark = 'E' →
      SpellsSign sign negative → digits ≠ [] → (∀ c ∈ digits, c.isDigit = true) →
      SpellsExponent (mark :: (sign ++ digits)) (some (negative, digits))

/-- The parts of a literal follow each other, with at least one digit before or after the point. -/
def Literal.Spells (l : Literal) (cs : List Char) : Prop :=
  ∃ sign fraction exponent, cs = sign ++ (l.whole ++ (fraction ++ exponent)) ∧
    SpellsSign sign l.negative ∧ (∀ c ∈ l.whole, c.isDigit = true) ∧
    SpellsFraction fraction l.fraction ∧ SpellsExponent exponent l.exponent ∧
    l.whole ++ l.fraction.getD [] ≠ []

/-- The characters with a property end where one follows that has it not. -/
theorem span_append {p : Char → Bool} {cs rest : List Char} (hcs : ∀ c ∈ cs, p c = true)
    (hrest : ∀ c ∈ rest.head?, p c = false) :
    (cs ++ rest).takeWhile p = cs ∧ (cs ++ rest).dropWhile p = rest := by
  rw [List.takeWhile_append_of_pos hcs, List.dropWhile_append_of_pos hcs]
  cases rest with
  | nil => simp
  | cons c rest =>
      have hc := hrest c rfl
      simp [hc]

section Signs

variable {cs rest : List Char} {negative : Bool}

theorem exists_spellsSign (cs : List Char) :
    ∃ sign, SpellsSign sign (splitSign cs).1 ∧ cs = sign ++ (splitSign cs).2 := by
  unfold splitSign
  split
  · exact ⟨['-'], .minus, rfl⟩
  · exact ⟨['+'], .plus, rfl⟩
  · exact ⟨[], .none, rfl⟩

/-- A sign is split off in front of a text without one. -/
theorem splitSign_append {sign : List Char} (h : SpellsSign sign negative)
    (hrest : ∀ c ∈ rest.head?, c ≠ '-' ∧ c ≠ '+') :
    splitSign (sign ++ rest) = (negative, rest) := by
  cases h with
  | plus => rfl
  | minus => rfl
  | none =>
      unfold splitSign
      split
      next tail htail => exact absurd rfl (hrest '-' (by simp_all)).1
      next tail htail => exact absurd rfl (hrest '+' (by simp_all)).2
      · rfl

end Signs

theorem not_sign_of_digit {c : Char} (h : c.isDigit = true) : c ≠ '-' ∧ c ≠ '+' := by
  constructor <;> rintro rfl <;> simp at h

/-- Exponents are read exactly when they are spelled as the grammar says. -/
theorem readExponent?_eq_some_iff {cs : List Char} {exponent : Option (Bool × List Char)} :
    Literal.readExponent? cs = some exponent ↔ SpellsExponent cs exponent := by
  constructor
  · intro h
    cases cs with
    | nil =>
        cases h
        exact .none
    | cons mark rest =>
        simp only [Literal.readExponent?, Bool.and_eq_true, Bool.or_eq_true, beq_iff_eq,
          isDigits_iff, Option.ite_none_right_eq_some, Option.some.injEq] at h
        obtain ⟨⟨hmark, hne, hdigits⟩, rfl⟩ := h
        obtain ⟨sign, hsign, hrest⟩ := exists_spellsSign rest
        rw [congrArg (mark :: ·) hrest]
        exact .mark hmark hsign hne hdigits
  · rintro (_ | ⟨hmark, hsign, hne, hdigits⟩)
    · rfl
    · have hsplit := splitSign_append hsign fun c hc =>
        not_sign_of_digit (hdigits c (List.mem_of_mem_head? hc))
      simp [Literal.readExponent?, hsplit, hmark, isDigits_iff, hne]
      simpa using hdigits

section Fractions

def splitFraction : List Char → Option (List Char) × List Char
  | '.' :: rest => (some (rest.takeWhile Char.isDigit), rest.dropWhile Char.isDigit)
  | rest => (none, rest)

theorem exists_spellsFraction (cs : List Char) :
    ∃ fraction, SpellsFraction fraction (splitFraction cs).1 ∧
      cs = fraction ++ (splitFraction cs).2 := by
  unfold splitFraction
  split
  next rest =>
    refine ⟨'.' :: rest.takeWhile Char.isDigit, .point fun c hc => List.mem_takeWhile_imp hc, ?_⟩
    simp
  · exact ⟨[], .none, rfl⟩

/-- A fraction is split off in front of a text that begins neither with a digit nor with a point. -/
theorem splitFraction_append {fraction rest : List Char} {digits : Option (List Char)}
    (h : SpellsFraction fraction digits)
    (hrest : ∀ c ∈ rest.head?, c.isDigit = false ∧ c ≠ '.') :
    splitFraction (fraction ++ rest) = (digits, rest) := by
  cases h with
  | none =>
      unfold splitFraction
      split
      next tail htail => exact absurd rfl (hrest '.' (by simp_all)).2
      · rfl
  | point hdigits =>
      obtain ⟨htake, hdrop⟩ := span_append hdigits fun c hc => (hrest c hc).1
      rw [List.cons_append, splitFraction, htake, hdrop]

end Fractions

namespace Literal

variable {cs : List Char} {l : Literal}

/-- The parts that reading splits off, one after the other. -/
theorem read?_eq_some_iff_parts :
    read? cs = some l ↔ ∃ exponent,
      (splitSign cs).2.takeWhile Char.isDigit ++
          (splitFraction ((splitSign cs).2.dropWhile Char.isDigit)).1.getD [] ≠ [] ∧
        readExponent? (splitFraction ((splitSign cs).2.dropWhile Char.isDigit)).2 = some exponent ∧
        { negative := (splitSign cs).1
          whole := (splitSign cs).2.takeWhile Char.isDigit
          fraction := (splitFraction ((splitSign cs).2.dropWhile Char.isDigit)).1
          exponent } = l := by
  have hread : read? cs = do
      guard !((splitSign cs).2.takeWhile Char.isDigit ++
          (splitFraction ((splitSign cs).2.dropWhile Char.isDigit)).1.getD []).isEmpty
      let exponent ← readExponent? (splitFraction ((splitSign cs).2.dropWhile Char.isDigit)).2
      return {
        negative := (splitSign cs).1
        whole := (splitSign cs).2.takeWhile Char.isDigit
        fraction := (splitFraction ((splitSign cs).2.dropWhile Char.isDigit)).1
        exponent } := rfl
  rw [hread]
  simp [Option.bind_eq_some_iff, Option.guard_eq_some']

/-- The reader takes exactly the literals of the grammar. -/
theorem read?_eq_some_iff : read? cs = some l ↔ l.Spells cs := by
  rw [read?_eq_some_iff_parts]
  constructor
  · rintro ⟨exponent, hne, hexponent, rfl⟩
    obtain ⟨sign, hsign, hcs⟩ := exists_spellsSign cs
    obtain ⟨fraction, hfraction, hrest⟩ :=
      exists_spellsFraction ((splitSign cs).2.dropWhile Char.isDigit)
    refine ⟨sign, fraction, _, ?_, hsign, fun c hc => List.mem_takeWhile_imp hc, hfraction,
      readExponent?_eq_some_iff.mp hexponent, hne⟩
    dsimp only
    rw [← hrest, List.takeWhile_append_dropWhile]
    exact hcs
  · rcases l with ⟨negative, whole, digits, power⟩
    rintro ⟨sign, fraction, exponent, rfl, hsign, hwhole, hfraction, hexponent, hne⟩
    dsimp only at hsign hwhole hfraction hexponent hne
    -- reading stops where the parts meet, since no part begins as the one before it goes on
    have hmark : ∀ c ∈ exponent.head?, c.isDigit = false ∧ c ≠ '.' := by
      intro c hc
      cases hexponent with
      | none => cases hc
      | mark hmark =>
          cases hc
          rcases hmark with rfl | rfl <;> decide
    have hbehind : ∀ c ∈ (fraction ++ exponent).head?, c.isDigit = false := by
      intro c hc
      cases hfraction with
      | none => exact (hmark c hc).1
      | point =>
          cases hc
          rfl
    have hbegin : ∀ c ∈ (whole ++ (fraction ++ exponent)).head?, c ≠ '-' ∧ c ≠ '+' := by
      intro c hc
      cases whole with
      | cons d rest =>
          cases hc
          exact not_sign_of_digit (hwhole c List.mem_cons_self)
      | nil =>
          cases hfraction with
          | none => exact absurd rfl hne
          | point =>
              cases hc
              decide
    obtain ⟨htake, hdrop⟩ := span_append hwhole hbehind
    rw [splitSign_append hsign hbegin]
    dsimp only
    rw [htake, hdrop, splitFraction_append hfraction hmark]
    exact ⟨power, hne, readExponent?_eq_some_iff.mpr hexponent, rfl⟩

/-- What a literal begins with. -/
theorem Spells.head {c : Char} {rest : List Char} (h : l.Spells (c :: rest)) :
    c.isDigit = true ∨ c = '-' ∨ c = '+' ∨ c = '.' := by
  rcases l with ⟨negative, whole, digits, power⟩
  obtain ⟨sign, fraction, exponent, hcs, hsign, hwhole, hfraction, -, hne⟩ := h
  dsimp only at hcs hsign hwhole hfraction hne
  cases hsign with
  | plus =>
      cases hcs
      simp
  | minus =>
      cases hcs
      simp
  | none =>
      cases whole with
      | cons d ds =>
          cases hcs
          exact Or.inl (hwhole c List.mem_cons_self)
      | nil =>
          cases hfraction with
          | none => exact absurd rfl hne
          | point =>
              cases hcs
              simp

theorem Spells.ne_nil (h : l.Spells cs) : cs ≠ [] := by
  rintro rfl
  rw [← read?_eq_some_iff] at h
  cases h

/-- An integer literal has neither a fraction nor an exponent. -/
theorem isInteger_iff : l.isInteger = true ↔ l.fraction = none ∧ l.exponent = none := by
  simp [isInteger]

/-- What the digits in front of the point denote, under the sign. -/
def integer (l : Literal) : Int :=
  if l.negative then -(ofDigits l.whole : Int) else ofDigits l.whole

/-- An integer literal is a word exactly if its value is in range. -/
theorem toInt64?_eq_some_iff {n : Int64} : l.toInt64? = some n ↔ l.integer = n.toInt := by
  have hlow := Int64.le_toInt n
  have hhigh := Int64.toInt_lt n
  have hword : ∀ i : Int, -2 ^ 63 ≤ i → i < 2 ^ 63 → (Int64.ofInt i = n ↔ i = n.toInt) := by
    intro i hi hi'
    rw [← Int64.toInt_inj, Int64.toInt_ofInt_of_le hi hi']
  have hread : l.toInt64? = some n ↔
      ofDigits l.whole ≤ (if l.negative then 2 ^ 63 else 2 ^ 63 - 1) ∧
        Int64.ofInt l.integer = n := by
    have hmap : l.toInt64? =
        (ofDigitsUpTo (if l.negative then 2 ^ 63 else 2 ^ 63 - 1) l.whole).map fun m : Nat =>
          Int64.ofInt (if l.negative then -(m : Int) else m) := by
      unfold toInt64?
      simp only [Nat.pow_eq]
      cases ofDigitsUpTo _ l.whole <;> rfl
    rw [hmap, Option.map_eq_some_iff]
    simp only [ofDigitsUpTo_eq_some_iff]
    constructor
    · rintro ⟨m, ⟨rfl, hm⟩, hn⟩
      exact ⟨hm, hn⟩
    · rintro ⟨hm, hn⟩
      exact ⟨_, ⟨rfl, hm⟩, hn⟩
  rw [hread]
  unfold integer
  cases l.negative with
  | true =>
      simp only [if_true]
      constructor
      · rintro ⟨hm, hn⟩
        exact (hword _ (by omega) (by omega)).mp hn
      · intro hn
        exact ⟨by omega, (hword _ (by omega) (by omega)).mpr hn⟩
  | false =>
      simp only [Bool.false_eq_true, if_false]
      constructor
      · rintro ⟨hm, hn⟩
        exact (hword _ (by omega) (by omega)).mp hn
      · intro hn
        exact ⟨by omega, (hword _ (by omega) (by omega)).mpr hn⟩

/-- An integer literal fits no word when it lies outside of 64 bits with a sign. -/
theorem toInt64?_eq_none_iff :
    l.toInt64? = none ↔ l.integer < -2 ^ 63 ∨ 2 ^ 63 ≤ l.integer := by
  rw [Option.eq_none_iff_forall_ne_some]
  simp only [ne_eq, toInt64?_eq_some_iff]
  constructor
  · intro h
    by_contra hrange
    exact h (Int64.ofInt l.integer) (Int64.toInt_ofInt_of_le (by omega) (by omega)).symm
  · intro hrange n hn
    have hlow := Int64.le_toInt n
    have hhigh := Int64.toInt_lt n
    omega

end Literal

end Hyperparams.Decimal

import Hyperparams.Proofs.Decimal.Digits
import Hyperparams.Proofs.Tree.Entries

/-!
# Slots and the segments that spell them

A segment of digits is a position by the number that it denotes, of whatever length it is. Reading
the digits into a machine word first, which may overflow, comes to the same, because every limit on
positions is below the largest word. Two segments spell one slot exactly if they are equal or digits
of one number.
-/

namespace Hyperparams

namespace Decimal

def checkedMul (a b : UInt64) : Option UInt64 :=
  if a.toNat * b.toNat < UInt64.size then some (a * b) else none

def checkedAdd (a b : UInt64) : Option UInt64 :=
  if a.toNat + b.toNat < UInt64.size then some (a + b) else none

/-- One more digit behind those of a word, unless it overflows. -/
def wordStep (word : UInt64) (c : Char) : Option UInt64 := do
  checkedAdd (← checkedMul word 10) (UInt64.ofNat (digit c))

/-- The word that digit characters denote, unless it overflows. -/
def readWord? (ds : List Char) : Option UInt64 :=
  ds.foldlM wordStep 0

/-- A further digit is taken in if the word has room for it. -/
theorem toNat_wordStep (word : UInt64) {c : Char} (hc : c.isDigit = true) :
    (wordStep word c).map UInt64.toNat =
      if 10 * word.toNat + digit c ≤ UInt64.size - 1 then some (10 * word.toNat + digit c)
      else none := by
  have hdigit : digit c ≤ 9 := Nat.sub_le_of_le_add (isDigit_cases hc).2
  have hword : (UInt64.ofNat (digit c)).toNat = digit c := by
    rw [UInt64.toNat_ofNat']
    omega
  have hten : (10 : UInt64).toNat = 10 := rfl
  have hsize : UInt64.size = 18446744073709551616 := rfl
  unfold wordStep checkedMul
  rw [hten]
  split
  next hproduct =>
    have hmul : (word * 10).toNat = word.toNat * 10 := by
      rw [UInt64.toNat_mul, hten]
      omega
    rw [Option.bind_eq_bind, Option.bind_some, checkedAdd, hmul, hword]
    split
    next hsum =>
      have hadd : (word * 10 + UInt64.ofNat (digit c)).toNat = 10 * word.toNat + digit c := by
        rw [UInt64.toNat_add, hmul, hword]
        omega
      rw [if_pos (by omega), Option.map_some, hadd]
    next hsum => rw [if_neg (by omega), Option.map_none]
  next hproduct =>
    rw [if_neg (by omega)]
    rfl

/-- Reading a word is reading a number against the largest word. -/
theorem toNat_readWord? {ds : List Char} (h : ∀ c ∈ ds, c.isDigit = true) :
    (readWord? ds).map UInt64.toNat = ofDigitsUpTo (UInt64.size - 1) ds := by
  have hgo : ∀ word : UInt64, (ds.foldlM wordStep word).map UInt64.toNat =
      ofDigitsUpTo.go (UInt64.size - 1) word.toNat ds := by
    induction ds with
    | nil => exact fun _ => rfl
    | cons c rest ih =>
        obtain ⟨hc, hrest⟩ := List.forall_mem_cons.mp h
        intro word
        have hstep := toNat_wordStep word hc
        rw [List.foldlM_cons, ofDigitsUpTo.go]
        cases hword : wordStep word c with
        | none =>
            rw [hword] at hstep
            split at hstep
            · cases hstep
            next hlarge =>
              rw [if_neg hlarge]
              rfl
        | some next =>
            rw [hword] at hstep
            split at hstep
            next hfits =>
              have hnext : next.toNat = 10 * word.toNat + digit c := Option.some.inj hstep
              rw [if_pos hfits, ← hnext]
              exact ih hrest next
            · cases hstep
  exact hgo 0

/-- Reading against a limit is reading against a higher one and then comparing. -/
theorem ofDigitsUpTo_eq_filter {limit bound : Nat} (h : limit ≤ bound) (ds : List Char) :
    ofDigitsUpTo limit ds = (ofDigitsUpTo bound ds).filter (· ≤ limit) := by
  ext index
  rw [Option.filter_eq_some_iff, decide_eq_true_eq, ofDigitsUpTo_eq_some_iff,
    ofDigitsUpTo_eq_some_iff]
  constructor
  · exact fun ⟨hvalue, hle⟩ => ⟨⟨hvalue, hle.trans h⟩, hle⟩
  · exact fun ⟨⟨hvalue, _⟩, hle⟩ => ⟨hvalue, hle⟩

end Decimal

namespace Slot

/-- The slot of a segment whose digits are read into a machine word. -/
def parseWord (segment key : String) : Except TreeError Slot :=
  if Decimal.isDigits segment.toList then
    match Decimal.readWord? segment.toList with
    | some word =>
      if word.toNat ≤ Limits.positionalIndex then .ok (positional word.toNat)
      else .error (.positionalIndexTooLarge key segment)
    | none => .error (.positionalIndexTooLarge key segment)
  else .ok (named segment)

variable {segment segment' key key' : String} {slot : Slot}

/-- Digits that overflow a word are far above the limit. -/
theorem parseWord_eq_parse (segment key : String) : parseWord segment key = parse segment key := by
  unfold parseWord parse
  split
  next hdigits =>
    have hread := Decimal.toNat_readWord? (Decimal.isDigits_iff.mp hdigits).2
    have hbelow : Limits.positionalIndex ≤ UInt64.size - 1 := by decide
    rw [Decimal.ofDigitsUpTo_eq_filter hbelow, ← hread]
    cases Decimal.readWord? segment.toList with
    | none => rfl
    | some word =>
        rw [Option.map_some, Option.filter_some]
        by_cases hle : word.toNat ≤ Limits.positionalIndex <;> simp [hle]
  next => rfl

/-- Digits denote a position. -/
theorem ofSegment_eq_positional_iff {index : Nat} :
    ofSegment segment = positional index ↔
      Decimal.isDigits segment.toList = true ∧ Decimal.ofDigits segment.toList = index := by
  unfold ofSegment
  split
  next hdigits => simp [hdigits]
  next hname => simp [hname]

/-- A segment that is not all digits denotes itself as a name. -/
theorem ofSegment_eq_named_iff {name : String} :
    ofSegment segment = named name ↔
      segment = name ∧ ¬ Decimal.isDigits segment.toList = true := by
  unfold ofSegment
  split
  next hdigits => simp [hdigits]
  next hname => simp [hname]

/-- The spelling of a slot is a segment of it. -/
theorem ofSegment_text (segment : String) :
    ofSegment (ofSegment segment).text = ofSegment segment := by
  by_cases hdigits : Decimal.isDigits segment.toList = true
  · rw [ofSegment_eq_positional_iff.mpr ⟨hdigits, rfl⟩, text, ofSegment_eq_positional_iff]
    exact ⟨Decimal.isDigits_toString _, Decimal.ofDigits_toString _⟩
  · rw [ofSegment_eq_named_iff.mpr ⟨rfl, hdigits⟩, text]
    exact ofSegment_eq_named_iff.mpr ⟨rfl, hdigits⟩

theorem InRange.text (h : InRange segment) : InRange (ofSegment segment).text := by
  by_cases hdigits : Decimal.isDigits segment.toList = true
  · rw [ofSegment_eq_positional_iff.mpr ⟨hdigits, rfl⟩, Slot.text]
    intro _
    rw [Decimal.ofDigits_toString]
    exact h hdigits
  · rwa [ofSegment_eq_named_iff.mpr ⟨rfl, hdigits⟩, Slot.text]

/-- Only a position beyond the limit is out of range. -/
theorem not_inRange_iff : ¬ InRange segment ↔ Decimal.isDigits segment.toList = true ∧
    Limits.positionalIndex < Decimal.ofDigits segment.toList := by
  rw [InRange, Classical.not_imp, Nat.not_le]

/-- A segment of digits is a position, or refused if its number is above the limit, and every other
segment is a name; so it also is for digits that overflow a machine word. Two segments are spellings
of one slot exactly if they are equal or digits of one number, and the spelling of a slot is read as
that slot. -/
theorem parse_classifies (segment key : String) :
    (∀ index, parse segment key = .ok (.positional index) ↔
      Decimal.isDigits segment.toList = true ∧ Decimal.ofDigits segment.toList = index ∧
        index ≤ Limits.positionalIndex) ∧
    (∀ e, parse segment key = .error e ↔ e = .positionalIndexTooLarge key segment ∧
      Decimal.isDigits segment.toList = true ∧
        Limits.positionalIndex < Decimal.ofDigits segment.toList) ∧
    (∀ name, parse segment key = .ok (.named name) ↔
      segment = name ∧ ¬ Decimal.isDigits segment.toList = true) ∧
    parse segment key = parseWord segment key ∧
    (∀ segment' key', (∃ slot, parse segment key = .ok slot ∧ parse segment' key' = .ok slot) ↔
      (∃ slot, parse segment key = .ok slot) ∧ SameSlot segment segment') ∧
    ∀ slot key', parse segment key = .ok slot → parse slot.text key' = .ok slot := by
  refine ⟨fun index => ?_, fun e => ?_, fun name => ?_, (parseWord_eq_parse segment key).symm,
    fun segment' key' => ?_, fun slot key' h => ?_⟩
  · rw [parse_eq_ok_iff, ofSegment_eq_positional_iff]
    constructor
    · rintro ⟨hrange, hdigits, rfl⟩
      exact ⟨hdigits, rfl, hrange hdigits⟩
    · rintro ⟨hdigits, rfl, hle⟩
      exact ⟨fun _ => hle, hdigits, rfl⟩
  · rw [parse_eq_error_iff, not_inRange_iff, and_comm]
  · rw [parse_eq_ok_iff, ofSegment_eq_named_iff]
    constructor
    · exact fun h => h.2
    · exact fun h => ⟨fun hdigits => absurd hdigits h.2, h⟩
  · simp only [parse_eq_ok_iff]
    constructor
    · rintro ⟨slot, ⟨hrange, rfl⟩, -, hsame⟩
      exact ⟨⟨_, hrange, rfl⟩, ofSegment_eq_iff.mp hsame.symm⟩
    · rintro ⟨⟨slot, hrange, rfl⟩, hsame⟩
      refine ⟨_, ⟨hrange, rfl⟩, ?_, (ofSegment_eq_iff.mpr hsame).symm⟩
      rcases hsame with rfl | ⟨hdigits, -, hvalue⟩
      · exact hrange
      · exact fun _ => hvalue ▸ hrange hdigits
  · obtain ⟨hrange, rfl⟩ := parse_eq_ok_iff.mp h
    exact parse_eq_ok_iff.mpr ⟨hrange.text, ofSegment_text segment⟩

/-- Zeros in front of a digit: another spelling of the position that the digit alone spells. -/
theorem parse_classifies_zeros :
    parse "007" "net.007" = .ok (.positional 7) ∧ parse "7" "net.7" = .ok (.positional 7) ∧
      parse "99999999999999999999999" "net" =
        .error (.positionalIndexTooLarge "net" "99999999999999999999999") := by
  have hseven : parse "007" "net.007" = .ok (.positional 7) :=
    ((parse_classifies "007" "net.007").1 7).mpr (by decide)
  obtain ⟨-, -, -, -, -, hspelling⟩ := parse_classifies "007" "net.007"
  exact ⟨hseven, hspelling _ "net.7" hseven,
    ((parse_classifies "99999999999999999999999" "net").2.1 _).mpr ⟨rfl, by decide⟩⟩

end Slot

end Hyperparams

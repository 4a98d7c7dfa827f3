import Hyperparams.Proofs.Json.Reading
import Hyperparams.Value.Inference

/-!
# Numbers on the command line

A text stands for a number if the literal that is left without white space around it and without
underscores between digits is one. Such a text is an integer if the literal has neither a point nor
an exponent and is in range, and a float else; there are no other numbers but the three words. A
document that is a number is such a literal, so that reading documents gives no further numbers.
-/

namespace Hyperparams.Value

open Decimal (Literal)

variable {cs text : List Char} {raw : String} {v : Value} {l : Literal}

section Separators

/-- Every underscore stands between two digits. -/
def Separated (cs : List Char) : Prop :=
  ∀ before after, cs = before ++ '_' :: after →
    (∃ c ∈ before.getLast?, c.isDigit = true) ∧ ∃ c ∈ after.head?, c.isDigit = true

/-- The underscores of a longer text are the first character and those of the rest. -/
theorem forall_underscores_cons {P : List Char → List Char → Prop} {c : Char} {rest : List Char} :
    (∀ before after, c :: rest = before ++ '_' :: after → P before after) ↔
      (c = '_' → P [] rest) ∧
        ∀ before after, rest = before ++ '_' :: after → P (c :: before) after := by
  constructor
  · intro h
    refine ⟨fun hc => h [] rest (by rw [hc]; rfl), fun before after hrest => ?_⟩
    exact h (c :: before) after (by rw [hrest]; rfl)
  · rintro ⟨hfirst, hrest⟩ before after h
    cases before with
    | nil =>
        obtain ⟨rfl, rfl⟩ := List.cons.inj h
        exact hfirst rfl
    | cons d before =>
        obtain ⟨rfl, htail⟩ := List.cons.inj h
        exact hrest before after htail

/-- Looking at the text character by character, behind the character `first`. -/
theorem underscoresBetweenDigits_iff (first : Char) :
    underscoresBetweenDigits first cs = true ↔
      ∀ before after, cs = before ++ '_' :: after →
        (∃ c ∈ (first :: before).getLast?, c.isDigit = true) ∧
          ∃ c ∈ after.head?, c.isDigit = true := by
  induction cs generalizing first with
  | nil => simp [underscoresBetweenDigits]
  | cons c rest ih =>
      have hrest : (∀ before after, rest = before ++ '_' :: after →
          (∃ d ∈ (first :: c :: before).getLast?, d.isDigit = true) ∧
            ∃ d ∈ after.head?, d.isDigit = true) ↔ underscoresBetweenDigits c rest = true := by
        rw [ih]
        simp
      rw [forall_underscores_cons, hrest]
      by_cases hc : c = '_'
      · subst hc
        cases rest <;> simp [underscoresBetweenDigits, and_assoc]
      · simp [underscoresBetweenDigits, hc]

theorem separated_iff : underscoresBetweenDigits ' ' cs = true ↔ Separated cs := by
  rw [underscoresBetweenDigits_iff]
  refine forall₃_congr fun before after _ => and_congr_left fun _ => ?_
  cases before with
  | nil => simp
  | cons c before => simp

theorem Separated.of_not_mem (h : '_' ∉ cs) : Separated cs := by
  rintro before after rfl
  simp at h

/-- Underscores are stripped if each stands between two digits. -/
theorem stripSeparators?_eq_some_iff :
    stripSeparators? cs = some text ↔ Separated cs ∧ cs.filter (· != '_') = text := by
  rw [← separated_iff]
  simp [stripSeparators?]

end Separators

section Trimming

variable {before word after : List Char}

/-- Blanks around a text that has none are trimmed off. -/
theorem trim_append (hne : word ≠ []) (hbefore : ∀ c ∈ before, Text.isBlank c = true)
    (hword : ∀ c ∈ word, Text.isBlank c = false) (hafter : ∀ c ∈ after, Text.isBlank c = true) :
    Text.trim (before ++ (word ++ after)) = word := by
  have hfront : (before ++ (word ++ after)).dropWhile Text.isBlank = word ++ after := by
    refine (Decimal.span_append hbefore fun c hc => ?_).2
    rw [List.head?_append_of_ne_nil _ hne] at hc
    exact hword c (List.mem_of_mem_head? hc)
  have hback : (after.reverse ++ word.reverse).dropWhile Text.isBlank = word.reverse := by
    refine (Decimal.span_append (fun c hc => hafter c (List.mem_reverse.mp hc)) fun c hc => ?_).2
    exact hword c (List.mem_reverse.mp (List.mem_of_mem_head? hc))
  rw [Text.trim, hfront, List.reverse_append, hback, List.reverse_reverse]

/-- What a text begins with that is not blank stays when it is trimmed. -/
theorem exists_trim_cons {c : Char} (hc : Text.isBlank c = false) (rest : List Char) :
    ∃ after, Text.trim (c :: rest) = c :: after := by
  have hback : ∃ before, (rest.reverse ++ [c]).dropWhile Text.isBlank = before ++ [c] := by
    rw [List.dropWhile_append]
    split
    · exact ⟨[], by simp [hc]⟩
    · exact ⟨_, rfl⟩
  obtain ⟨before, hbefore⟩ := hback
  refine ⟨before.reverse, ?_⟩
  rw [Text.trim, List.dropWhile_cons_of_neg (by simp [hc]), List.reverse_cons, hbefore]
  simp

theorem blank_of_isSpace {c : Char} (h : Json.isSpace c = true) : Text.isBlank c = true := by
  simp only [Json.isSpace, Bool.or_eq_true, beq_iff_eq] at h
  rcases h with ((rfl | rfl) | rfl) | rfl <;> rfl

theorem isWordChar_bounds {c : Char} (h : Json.isWordChar c = true) :
    43 ≤ c.toNat ∧ c.toNat ≤ 122 := by
  simp only [Json.isWordChar, Bool.or_eq_true, beq_iff_eq, Char.isAlphanum, Char.isAlpha,
    Char.isUpper, Char.isLower, Char.isDigit, Bool.and_eq_true, decide_eq_true_eq,
    UInt32.le_iff_toNat_le, ge_iff_le] at h
  rcases h with ((((h | h) | h) | rfl) | rfl) | rfl
  · exact ⟨le_trans (by decide) h.1, le_trans h.2 (by decide)⟩
  · exact ⟨le_trans (by decide) h.1, le_trans h.2 (by decide)⟩
  · exact ⟨le_trans (by decide) h.1, le_trans h.2 (by decide)⟩
  all_goals decide

theorem not_blank_of_isWordChar {c : Char} (h : Json.isWordChar c = true) :
    Text.isBlank c = false := by
  obtain ⟨hlow, hhigh⟩ := isWordChar_bounds h
  simp [Text.isBlank]
  omega

end Trimming

section Literals

/-- A text is a literal, with white space around it and underscores between its digits. -/
def Writes (raw : String) (l : Literal) : Prop :=
  Separated (Text.trim raw.toList) ∧ l.Spells ((Text.trim raw.toList).filter (· != '_'))

/-- What a number begins with, if there is no white space in front. -/
theorem Writes.head {c : Char} {rest : List Char} (h : Writes raw l) (hraw : raw.toList = c :: rest)
    (hc : Text.isBlank c = false) : c.isDigit = true ∨ c = '-' ∨ c = '+' ∨ c = '.' := by
  obtain ⟨hseparated, hspells⟩ := h
  obtain ⟨after, htrim⟩ := exists_trim_cons hc rest
  rw [hraw, htrim] at hseparated hspells
  by_cases hunderscore : c = '_'
  · subst hunderscore
    obtain ⟨⟨d, hd, -⟩, -⟩ := hseparated [] after rfl
    cases hd
  · rw [List.filter_cons_of_pos (by simpa using hunderscore)] at hspells
    exact hspells.head

/-- A text is inferred as a number if it writes a literal. -/
theorem inferNumber?_eq_some_iff :
    inferNumber? raw.toList = some v ↔ ∃ l, Writes raw l ∧ ofLiteral l = v := by
  simp [inferNumber?, Option.bind_eq_some_iff, stripSeparators?_eq_some_iff,
    Literal.read?_eq_some_iff, Writes, and_assoc]

/-- A literal is an integer if it is written as one and fits a word. -/
theorem ofLiteral_eq_int_iff {n : Int64} :
    ofLiteral l = .int n ↔ l.isInteger = true ∧ l.integer = n.toInt := by
  rw [← Literal.toInt64?_eq_some_iff]
  by_cases hinteger : l.isInteger = true
  · cases hword : l.toInt64? <;> simp [ofLiteral, hinteger, hword]
  · simp [ofLiteral, hinteger]

/-- A literal is a float if it is written as one or fits no word. -/
theorem ofLiteral_eq_float_iff {x : Float} :
    ofLiteral l = .float x ↔
      (l.isInteger = false ∨ l.integer < -2 ^ 63 ∨ 2 ^ 63 ≤ l.integer) ∧ x = l.toFloat := by
  rw [← Literal.toInt64?_eq_none_iff]
  by_cases hinteger : l.isInteger = true
  · cases hword : l.toInt64? <;> simp [ofLiteral, hinteger, hword, eq_comm]
  · simp [ofLiteral, hinteger, eq_comm]

end Literals

section Words

/-- A word between blanks is a literal if its characters spell one. -/
theorem writes_of_word {before word after : List Char}
    (hraw : raw.toList = before ++ (word ++ after)) (hbefore : ∀ c ∈ before, Text.isBlank c = true)
    (hword : ∀ c ∈ word, Json.isWordChar c = true) (hafter : ∀ c ∈ after, Text.isBlank c = true)
    (hl : l.Spells word) : Writes raw l := by
  have htrim : Text.trim raw.toList = word := by
    rw [hraw]
    exact trim_append hl.ne_nil hbefore (fun c hc => not_blank_of_isWordChar (hword c hc)) hafter
  have hunderscore : '_' ∉ word := fun hmem => absurd (hword '_' hmem) (by decide)
  have hbare : word.filter (· != '_') = word :=
    List.filter_eq_self.mpr fun c hc => by simpa using fun heq : c = '_' => hunderscore (heq ▸ hc)
  unfold Writes
  rw [htrim, hbare]
  exact ⟨Separated.of_not_mem hunderscore, hl⟩

/-- A text that is read as a number of a document is a literal. -/
theorem exists_writes_of_read? {n : Json.Number} (h : Json.read? raw = some (.number n)) :
    ∃ l, Writes raw l := by
  obtain ⟨before, word, after, hraw, hbefore, hword, hafter, hn⟩ := Json.fills_of_read? h
  obtain ⟨⟨l, hl⟩, -⟩ := Json.Number.exists_spells hn
  exact ⟨l, writes_of_word hraw (fun c hc => blank_of_isSpace (hbefore c hc)) hword
    (fun c hc => blank_of_isSpace (hafter c hc)) hl⟩

/-- Three words stand for values of their own. -/
theorem inferWord?_cases (h : inferWord? raw = some v) :
    raw = "None" ∧ v = .none ∨ raw = "True" ∧ v = .bool true ∨ raw = "False" ∧ v = .bool false := by
  unfold inferWord? at h
  split_ifs at h with hnone htrue hfalse
  · exact Or.inl ⟨hnone, (Option.some.inj h).symm⟩
  · exact Or.inr (Or.inl ⟨htrue, (Option.some.inj h).symm⟩)
  · exact Or.inr (Or.inr ⟨hfalse, (Option.some.inj h).symm⟩)

/-- Three words stand for floats that are not finite. -/
theorem inferNonFinite?_eq_some_iff :
    inferNonFinite? raw = some v ↔
      raw = "Infinity" ∧ v = .float (1.0 / 0.0) ∨ raw = "-Infinity" ∧ v = .float (-1.0 / 0.0) ∨
        raw = "NaN" ∧ v = .float (0.0 / 0.0) := by
  constructor
  · intro h
    unfold inferNonFinite? at h
    split_ifs at h with hplus hminus hnan
    · exact Or.inl ⟨hplus, (Option.some.inj h).symm⟩
    · exact Or.inr (Or.inl ⟨hminus, (Option.some.inj h).symm⟩)
    · exact Or.inr (Or.inr ⟨hnan, (Option.some.inj h).symm⟩)
  · rintro (⟨rfl, rfl⟩ | ⟨rfl, rfl⟩ | ⟨rfl, rfl⟩) <;> rfl

theorem inferNumber?_of_inferWord? (h : inferWord? raw = some v) :
    inferNumber? raw.toList = Option.none := by
  rcases inferWord?_cases h with ⟨rfl, -⟩ | ⟨rfl, -⟩ | ⟨rfl, -⟩ <;> rfl

theorem inferNumber?_of_inferNonFinite? (h : inferNonFinite? raw = some v) :
    inferNumber? raw.toList = Option.none := by
  rcases inferNonFinite?_eq_some_iff.mp h with ⟨rfl, -⟩ | ⟨rfl, -⟩ | ⟨rfl, -⟩ <;> rfl

/-- A text that is a number stands for it, whatever the other rules say. -/
theorem infer_of_inferNumber? (h : inferNumber? raw.toList = some v) : infer raw = v := by
  have hword : inferWord? raw = Option.none := by
    by_contra hsome
    obtain ⟨w, hw⟩ := Option.ne_none_iff_exists'.mp hsome
    rw [inferNumber?_of_inferWord? hw] at h
    cases h
  simp [infer, hword, h]

theorem infer_of_inferNonFinite? (h : inferNonFinite? raw = some v) : infer raw = v := by
  have hword : inferWord? raw = Option.none := by
    rcases inferNonFinite?_eq_some_iff.mp h with ⟨rfl, -⟩ | ⟨rfl, -⟩ | ⟨rfl, -⟩ <;> rfl
  simp [infer, hword, inferNumber?_of_inferNonFinite? h, h]

def isNumber : Value → Bool
  | .int _ => true
  | .float _ => true
  | _ => false

theorem isNumber_of_inferWord? (h : inferWord? raw = some v) : v.isNumber = false := by
  rcases inferWord?_cases h with ⟨-, rfl⟩ | ⟨-, rfl⟩ | ⟨-, rfl⟩ <;> rfl

theorem isNumber_ofJson {doc : Json} (h : ∀ n, doc ≠ .number n) :
    (ofJson doc).isNumber = false := by
  cases doc with
  | number n => exact absurd rfl (h n)
  | _ => rfl

/-- A document that is left to the last rule is no number. -/
theorem isNumber_of_read? {doc : Json} (h : inferNumber? raw.toList = Option.none)
    (hdoc : Json.read? raw = some doc) : (ofJson doc).isNumber = false := by
  refine isNumber_ofJson fun n hn => ?_
  subst hn
  obtain ⟨l, hl⟩ := exists_writes_of_read? hdoc
  rw [inferNumber?_eq_some_iff.mpr ⟨l, hl, rfl⟩] at h
  cases h

/-- A text that the rules for words and numbers leave is a document or a string. -/
theorem infer_of_none (hword : inferWord? raw = Option.none)
    (hnumber : inferNumber? raw.toList = Option.none)
    (hconstant : inferNonFinite? raw = Option.none) :
    infer raw = ((Json.read? raw).map ofJson).getD (.str raw) := by
  simp [infer, hword, hnumber, hconstant]

/-- The rules that a value can come from. -/
theorem infer_cases (h : infer raw = v) :
    inferWord? raw = some v ∨ inferNumber? raw.toList = some v ∨ inferNonFinite? raw = some v ∨
      (∃ doc, Json.read? raw = some doc ∧ ofJson doc = v) ∨ v = .str raw := by
  cases hword : inferWord? raw with
  | some w =>
      left
      simpa [infer, hword] using h
  | none =>
      right
      cases hnumber : inferNumber? raw.toList with
      | some w =>
          left
          rw [infer_of_inferNumber? hnumber] at h
          rw [h]
      | none =>
          right
          cases hconstant : inferNonFinite? raw with
          | some w =>
              left
              rw [infer_of_inferNonFinite? hconstant] at h
              rw [h]
          | none =>
              right
              rw [infer_of_none hword hnumber hconstant] at h
              cases hread : Json.read? raw with
              | some doc =>
                  rw [hread] at h
                  exact Or.inl ⟨doc, rfl, h⟩
              | none =>
                  rw [hread] at h
                  exact Or.inr h.symm

/-- Where the third rule finds no number, only the three words give one. -/
theorem inferNonFinite?_of_infer (hnone : inferNumber? raw.toList = Option.none)
    (hnumber : (infer raw).isNumber = true) : inferNonFinite? raw = some (infer raw) := by
  rcases infer_cases (Eq.refl (infer raw)) with h | h | h | ⟨doc, hread, h⟩ | h
  · rw [isNumber_of_inferWord? h] at hnumber
    cases hnumber
  · rw [hnone] at h
    cases h
  · exact h
  · rw [← h, isNumber_of_read? hnone hread] at hnumber
    cases hnumber
  · rw [h] at hnumber
    cases hnumber

/-- Numbers are inferred from literals and from the words for floats that are not finite. -/
theorem infer_eq_iff (hv : v.isNumber = true) :
    infer raw = v ↔ inferNumber? raw.toList = some v ∨ inferNonFinite? raw = some v := by
  constructor
  · rintro rfl
    cases hnumber : inferNumber? raw.toList with
    | some v => exact Or.inl (by rw [infer_of_inferNumber? hnumber])
    | none => exact Or.inr (inferNonFinite?_of_infer hnumber hv)
  · rintro (hnumber | hconstant)
    · exact infer_of_inferNumber? hnumber
    · exact infer_of_inferNonFinite? hconstant

theorem inferNonFinite?_ne_int (n : Int64) : inferNonFinite? raw ≠ some (.int n) := by
  intro h
  rcases inferNonFinite?_eq_some_iff.mp h with ⟨-, h⟩ | ⟨-, h⟩ | ⟨-, h⟩ <;> cases h

end Words

/-- A text is an integer exactly if it is an integer literal in range; it is a float exactly if it
is any other literal, or one of the three words. The rule for documents yields no number. -/
theorem infer_number_iff (raw : String) :
    (∀ n, infer raw = .int n ↔
      ∃ l, Writes raw l ∧ (l.fraction = Option.none ∧ l.exponent = Option.none) ∧
        l.integer = n.toInt) ∧
    (∀ x, infer raw = .float x ↔
      (∃ l, Writes raw l ∧ ((l.fraction ≠ Option.none ∨ l.exponent ≠ Option.none) ∨
        l.integer < -2 ^ 63 ∨ 2 ^ 63 ≤ l.integer) ∧ x = l.toFloat) ∨
      raw = "Infinity" ∧ x = 1.0 / 0.0 ∨ raw = "-Infinity" ∧ x = -1.0 / 0.0 ∨
        raw = "NaN" ∧ x = 0.0 / 0.0) ∧
    ∀ doc, inferNumber? raw.toList = Option.none → Json.read? raw = some doc →
      (ofJson doc).isNumber = false := by
  refine ⟨fun n => ?_, fun x => ?_, fun doc => isNumber_of_read?⟩
  · rw [infer_eq_iff rfl, inferNumber?_eq_some_iff, or_iff_left (inferNonFinite?_ne_int n)]
    simp only [ofLiteral_eq_int_iff, Literal.isInteger_iff]
  · have hinteger : ∀ l : Literal, l.isInteger = false ↔
        l.fraction ≠ Option.none ∨ l.exponent ≠ Option.none := by
      intro l
      rw [Bool.eq_false_iff, ne_eq, Literal.isInteger_iff, not_and_or]
    rw [infer_eq_iff rfl, inferNumber?_eq_some_iff, inferNonFinite?_eq_some_iff]
    simp only [ofLiteral_eq_float_iff, hinteger, Value.float.injEq]

example : infer " -9_223_372_036_854_775_808\t" = .int Int64.minValue := rfl

end Hyperparams.Value

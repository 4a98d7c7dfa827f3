import Hyperparams.Proofs.Decimal.Rereading
import Hyperparams.Proofs.Inference
import Hyperparams.Proofs.Json.Rereading

/-!
# Inferring the text of a value

The text of a value that is no string is inferred as the value again. Words and documents are taken
by no earlier rule, an integer has neither a point nor an exponent and a float always has one, and
what the text denotes is the value.
-/

namespace Hyperparams

namespace Decimal

variable {l : Literal} {cs : List Char}

theorem isWordChar_of_mem_sign {sign : List Char} {negative : Bool} (h : SpellsSign sign negative) :
    ∀ c ∈ sign, Json.isWordChar c = true := by
  cases h <;> simp [Json.isWordChar]

/-- The characters of a literal can stand in a word. -/
theorem Literal.Spells.isWordChar (h : l.Spells cs) : ∀ c ∈ cs, Json.isWordChar c = true := by
  rcases l with ⟨negative, whole, digits, power⟩
  obtain ⟨sign, fraction, exponent, rfl, hsign, hwhole, hfraction, hexponent, -⟩ := h
  dsimp only at hsign hwhole hfraction hexponent
  have hdigits : ∀ {ds : List Char}, (∀ c ∈ ds, c.isDigit = true) →
      ∀ c ∈ ds, Json.isWordChar c = true := fun hds c hc =>
    Json.Number.isWordChar_of_digit (hds c hc)
  simp only [List.forall_mem_append]
  refine ⟨isWordChar_of_mem_sign hsign, hdigits hwhole, ?_, ?_⟩
  · cases hfraction with
    | none => simp
    | point hds => exact List.forall_mem_cons.mpr ⟨by decide, hdigits hds⟩
  · cases hexponent with
    | none => simp
    | mark hmark hpowersign _ hds =>
        refine List.forall_mem_cons.mpr ⟨?_, List.forall_mem_append.mpr
          ⟨isWordChar_of_mem_sign hpowersign, hdigits hds⟩⟩
        rcases hmark with rfl | rfl <;> decide

end Decimal

namespace Value

open Decimal (Literal SpellsSign)

variable {raw : String} {l : Literal} {v : Value}

/-- A literal that fills the text is what the text stands for. -/
theorem infer_of_spells (h : l.Spells raw.toList) : infer raw = ofLiteral l := by
  have hwrites : Writes raw l :=
    writes_of_word (show raw.toList = [] ++ (raw.toList ++ []) by simp) (List.forall_mem_nil _)
      h.isWordChar (List.forall_mem_nil _) h
  exact infer_of_inferNumber? (inferNumber?_eq_some_iff.mpr ⟨l, hwrites, rfl⟩)

/-- The text of an integer is an integer literal. -/
theorem exists_integer (i : Int) :
    ∃ l : Literal, l.Spells (toString i).toList ∧ l.isInteger = true ∧ l.integer = i := by
  have hdigits := fun m => Decimal.isDigits_iff.mp (Decimal.isDigits_toDigits m)
  cases i with
  | ofNat m =>
      refine ⟨⟨false, Decimal.toDigits m, Option.none, Option.none⟩, ?_, rfl, ?_⟩
      · rw [Int.ofNat_eq_natCast, Json.Number.toList_toString_ofNat]
        exact ⟨[], [], [], by simp, .none, (hdigits m).2, .none, .none, by simp [(hdigits m).1]⟩
      · simp [Literal.integer, Decimal.ofDigits_toDigits]
  | negSucc m =>
      refine ⟨⟨true, Decimal.toDigits (m + 1), Option.none, Option.none⟩, ?_, rfl, ?_⟩
      · rw [Json.Number.toList_toString_negSucc]
        exact ⟨['-'], [], [], by simp, .minus, (hdigits (m + 1)).2, .none, .none,
          by simp [(hdigits (m + 1)).1]⟩
      · simp [Literal.integer, Decimal.ofDigits_toDigits, Int.negSucc_eq]

/-- The text of an integer is inferred as the integer. -/
theorem infer_toString (n : Int64) : infer (toString n.toInt) = .int n := by
  obtain ⟨l, hspells, hinteger, hvalue⟩ := exists_integer n.toInt
  rw [infer_of_spells hspells]
  exact ofLiteral_eq_int_iff.mpr ⟨hinteger, hvalue⟩

/-- A float is written as a literal with a point or an exponent, or as one of the three words. -/
theorem infer_float (x : Float) : infer (floatLayout.write x) = .float x := by
  -- a window of positional exponents bounds the zeros that are written beside the digits
  have hwindow : ∀ k, floatLayout.positional k = true → -32 ≤ k ∧ k < 32 := by
    intro k hk
    have hk : -4 ≤ k ∧ k < 16 := by simpa [floatLayout, Decimal.plainLayout] using hk
    omega
  have hsign : SpellsSign (if Decimal.isNegative x then ['-'] else []) (Decimal.isNegative x) := by
    cases Decimal.isNegative x with
    | true => exact .minus
    | false => exact .none
  unfold Decimal.Layout.write
  dsimp only
  by_cases hnan : Decimal.infinityBits < Decimal.magnitude x
  · rw [if_pos hnan, Decimal.eq_of_infinityBits_lt hnan]
    rfl
  by_cases hinfinite : Decimal.magnitude x = Decimal.infinityBits
  · rw [if_neg hnan, if_pos hinfinite]
    have hx := Decimal.eq_of_magnitude_eq_infinityBits hinfinite
    cases hnegative : Decimal.isNegative x with
    | true =>
        rw [hnegative] at hx
        rw [hx]
        rfl
    | false =>
        rw [hnegative] at hx
        rw [hx]
        rfl
  · rw [if_neg hnan, if_neg hinfinite]
    have hfinite : Decimal.magnitude x < Decimal.infinityBits :=
      lt_of_le_of_ne (not_lt.mp hnan) hinfinite
    obtain ⟨l, hspells, hinteger, hvalue⟩ :=
      Decimal.exists_finite floatLayout hsign rfl hwindow hfinite
    rw [Decimal.ofMagnitude_magnitude] at hvalue
    rw [← String.toList_ofList (l := _ ++ _)] at hspells
    rw [infer_of_spells hspells]
    exact ofLiteral_eq_float_iff.mpr ⟨Or.inl hinteger, hvalue.symm⟩

section Documents

variable {c : Char} {rest : List Char} {doc other : Json}

/-- The text of a container begins with its bracket. -/
theorem exists_bracket (h : doc.isContainer = true) :
    ∃ c rest, doc.compact.toList = c :: rest ∧ (c = '[' ∨ c = '{') := by
  rw [Json.compact, String.toList_ofList]
  cases doc with
  | array items => exact ⟨_, _, rfl, Or.inl rfl⟩
  | object fields => exact ⟨_, _, rfl, Or.inr rfl⟩
  | _ => cases h

theorem isWordChar_of_inferWord? (hraw : raw.toList = c :: rest) (h : inferWord? raw = some v) :
    Json.isWordChar c = true := by
  rcases inferWord?_cases h with ⟨rfl, -⟩ | ⟨rfl, -⟩ | ⟨rfl, -⟩
  all_goals
    cases hraw
    rfl

theorem isWordChar_of_inferNonFinite? (hraw : raw.toList = c :: rest)
    (h : inferNonFinite? raw = some v) : Json.isWordChar c = true := by
  rcases inferNonFinite?_eq_some_iff.mp h with ⟨rfl, -⟩ | ⟨rfl, -⟩ | ⟨rfl, -⟩
  all_goals
    cases hraw
    rfl

/-- A number that does not begin with white space begins with a character of a word. -/
theorem isWordChar_of_inferNumber? (hraw : raw.toList = c :: rest) (hc : Text.isBlank c = false)
    (h : inferNumber? raw.toList = some v) : Json.isWordChar c = true := by
  obtain ⟨l, hl, -⟩ := inferNumber?_eq_some_iff.mp h
  rcases hl.head hraw hc with hdigit | rfl | rfl | rfl
  · exact Json.Number.isWordChar_of_digit hdigit
  all_goals rfl

/-- A text that begins with a bracket is left to the last rule. -/
theorem infer_of_bracket (hraw : raw.toList = c :: rest) (hc : c = '[' ∨ c = '{') :
    infer raw = ((Json.read? raw).map ofJson).getD (.str raw) := by
  have hblank : Text.isBlank c = false := by
    rcases hc with rfl | rfl <;> rfl
  have hcode : Json.isWordChar c ≠ true := by
    rcases hc with rfl | rfl <;> decide
  have hword : inferWord? raw = Option.none :=
    Option.eq_none_iff_forall_ne_some.mpr fun _ h => hcode (isWordChar_of_inferWord? hraw h)
  have hnumber : inferNumber? raw.toList = Option.none :=
    Option.eq_none_iff_forall_ne_some.mpr fun _ h =>
      hcode (isWordChar_of_inferNumber? hraw hblank h)
  have hconstant : inferNonFinite? raw = Option.none :=
    Option.eq_none_iff_forall_ne_some.mpr fun _ h => hcode (isWordChar_of_inferNonFinite? hraw h)
  exact infer_of_none hword hnumber hconstant

/-- A value that is a document is an array or an object. -/
theorem ofJson_eq_json_iff : ofJson other = .json doc ↔ other = doc ∧ doc.isContainer = true := by
  cases other with
  | number n =>
      have hscalar : ofJson (.number n) ≠ .json doc := by
        rcases ofJson_number n with ⟨i, h⟩ | h
        · simp [h]
        · simp [h]
      simp only [hscalar, false_iff]
      rintro ⟨rfl, h⟩
      cases h
  | array items =>
      simp only [ofJson, Value.json.injEq, iff_self_and]
      rintro rfl
      rfl
  | object fields =>
      simp only [ofJson, Value.json.injEq, iff_self_and]
      rintro rfl
      rfl
  | _ =>
      simp only [ofJson, reduceCtorEq, false_iff]
      rintro ⟨rfl, h⟩
      cases h

/-- The text of an array or object is inferred as the document. -/
theorem infer_compact (hcontainer : doc.isContainer = true) (hvalid : doc.Valid)
    (hfree : doc.FloatFree) (hnested : doc.NestedWithin Json.maxDepth) :
    infer doc.compact = .json doc := by
  obtain ⟨c, rest, hraw, hc⟩ := exists_bracket hcontainer
  rw [infer_of_bracket hraw hc, Json.read?_compact hvalid hfree hnested]
  exact ofJson_eq_json_iff.mpr ⟨rfl, hcontainer⟩

theorem inferWord?_ne_json : inferWord? raw ≠ some (.json doc) := by
  intro h
  rcases inferWord?_cases h with ⟨-, h⟩ | ⟨-, h⟩ | ⟨-, h⟩ <;> cases h

theorem inferNumber?_ne_json : inferNumber? raw.toList ≠ some (.json doc) := by
  intro h
  obtain ⟨l, -, hl⟩ := inferNumber?_eq_some_iff.mp h
  unfold ofLiteral at hl
  split_ifs at hl
  split at hl <;> cases hl

theorem inferNonFinite?_ne_json : inferNonFinite? raw ≠ some (.json doc) := by
  intro h
  rcases inferNonFinite?_eq_some_iff.mp h with ⟨-, h⟩ | ⟨-, h⟩ | ⟨-, h⟩ <;> cases h

/-- A document that a text stands for was read from it. -/
theorem read?_of_infer (h : infer raw = .json doc) : Json.read? raw = some doc := by
  rcases infer_cases h with h | h | h | ⟨other, hread, h⟩ | h
  · exact absurd h inferWord?_ne_json
  · exact absurd h inferNumber?_ne_json
  · exact absurd h inferNonFinite?_ne_json
  · rw [hread, (ofJson_eq_json_iff.mp h).1]
  · cases h

end Documents

/-- A value that its text gives back: it is no string, and a document is an array or an object
without doubles that nests no deeper than documents are read. -/
def Reinferable : Value → Prop
  | .str _ => False
  | .json doc => doc.isContainer = true ∧ doc.FloatFree ∧ doc.NestedWithin 127
  | _ => True

/-- A value that its text gives back is inferred from the text. -/
theorem infer_text_of_reinferable (hvalid : v.Valid) (h : v.Reinferable) : infer v.text = v := by
  cases v with
  | none => rfl
  | bool b => cases b <;> rfl
  | int n => exact infer_toString n
  | float x => exact infer_float x
  | str s => exact h.elim
  | json doc =>
      obtain ⟨hcontainer, hfree, hnested⟩ := h
      exact infer_compact hcontainer hvalid hfree hnested

/-- The documents that inference gives are valid, if they have no doubles. -/
theorem valid_infer (h : (infer raw).Reinferable) : (infer raw).Valid := by
  cases hv : infer raw with
  | json doc =>
      rw [hv] at h
      exact Json.valid_of_read? (read?_of_infer hv) h.2.1
  | _ => trivial

/-- The text of a value that is no string is inferred as the value again, so inferring the text of
what was inferred changes nothing. -/
theorem infer_text :
    (∀ v : Value, v.Valid → v.Reinferable → infer v.text = v) ∧
    ∀ raw : String, (infer raw).Reinferable → infer (infer raw).text = infer raw :=
  ⟨fun _ => infer_text_of_reinferable,
    fun _ h => infer_text_of_reinferable (valid_infer h) h⟩

/-- An object that holds an array, and a spaced text for that array. -/
theorem infer_text_sizes :
    let sizes : Json := .array [.number (.int 64), .null]
    let doc : Json := .object [("sizes", sizes)]
    (Value.json doc).Valid ∧ (Value.json doc).Reinferable ∧
      infer (Value.json doc).text = .json doc ∧
      infer "[64, null]" = .json sizes ∧ (infer "[64, null]").Reinferable ∧
      infer (infer "[64, null]").text = infer "[64, null]" := by
  intro sizes doc
  have hraw : infer "[64, null]" = .json sizes := by
    rw [infer_of_bracket (c := '[') rfl (Or.inl rfl)]
    rfl
  have hvalid : sizes.Valid := .array (by simpa using ⟨.number (by decide), .null⟩)
  have hfree : sizes.FloatFree := .array (by simpa using ⟨.int 64, .null⟩)
  have hnested : ∀ depth, sizes.NestedWithin (depth + 1) := fun depth =>
    .array (by simpa using ⟨.scalar rfl, .scalar rfl⟩)
  have hdoc : (Value.json doc).Reinferable :=
    ⟨rfl, .object (by simpa using hfree), .object (by simpa using hnested 125)⟩
  have hread : (infer "[64, null]").Reinferable := by
    rw [hraw]
    exact ⟨rfl, hfree, hnested 126⟩
  have hwhole : (Value.json doc).Valid := .object (by decide) (by simpa using hvalid)
  exact ⟨hwhole, hdoc, infer_text.1 (.json doc) hwhole hdoc, hraw, hread,
    infer_text.2 "[64, null]" hread⟩

end Value

end Hyperparams

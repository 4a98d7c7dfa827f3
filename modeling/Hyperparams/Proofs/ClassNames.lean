import Hyperparams.Object.Registry
import Hyperparams.Proofs.Inference
import Hyperparams.Proofs.Preferences

/-!
# Names of classes

A name that a registry accepts for a class is identifiers with dots between them. It begins with a
letter or an underscore, so it is no number; and it is no document unless it is one of the literal
names, since an underscore ends every word. So it stays a text on the command line, and a class of
that name can be declared, unless it is one of eight words that stand for something else.
-/

namespace Hyperparams

variable {name : String} {cs : List Char} {c : Char} {inside : Bool}

/-- The class names that stand for a value of another kind. -/
def reservedWords : List String :=
  ["None", "True", "False", "true", "false", "null", "Infinity", "NaN"]

section Characters

theorem isAlphanum_of_isAlpha (h : c.isAlpha = true) : c.isAlphanum = true := by
  simp [Char.isAlphanum, h]

theorem isIdentifierChar_of_start (h : isIdentifierStart c = true) :
    isIdentifierChar c = true := by
  simp only [isIdentifierStart, Bool.or_eq_true, decide_eq_true_eq] at h
  rcases h with h | h
  · simp [isIdentifierChar, isAlphanum_of_isAlpha h]
  · simp [isIdentifierChar, h]

theorem le_of_isAlpha (h : c.isAlpha = true) : 65 ≤ c.toNat := by
  simp only [Char.isAlpha, Char.isUpper, Char.isLower, Bool.or_eq_true, Bool.and_eq_true,
    decide_eq_true_eq, UInt32.le_iff_toNat_le, ge_iff_le] at h
  rcases h with h | h
  · exact h.1
  · exact le_trans (by decide) h.1

/-- No literal begins as an identifier does. -/
theorem not_literalHead (h : isIdentifierStart c = true) :
    ¬(c.isDigit = true ∨ c = '-' ∨ c = '+' ∨ c = '.') := by
  rintro (hdigit | rfl | rfl | rfl)
  · have hle := (Decimal.isDigit_cases hdigit).2
    simp only [isIdentifierStart, Bool.or_eq_true, decide_eq_true_eq] at h
    rcases h with halpha | rfl
    · have hge := le_of_isAlpha halpha
      omega
    · cases hdigit
  all_goals exact absurd h (by decide)

/-- A character of a class name can stand in a word of a document, unless it is an underscore. -/
theorem isWordChar_or_eq (h : isDottedIdentifiers inside cs = true) :
    ∀ c ∈ cs, Json.isWordChar c = true ∨ c = '_' := by
  induction cs generalizing inside with
  | nil => simp
  | cons c rest ih =>
      have hchar : ∀ {d : Char}, isIdentifierChar d = true →
          Json.isWordChar d = true ∨ d = '_' := by
        intro d hd
        simp only [isIdentifierChar, Bool.or_eq_true, decide_eq_true_eq] at hd
        rcases hd with hd | hd
        · exact Or.inl (by simp [Json.isWordChar, hd])
        · exact Or.inr hd
      cases inside with
      | false =>
          simp only [isDottedIdentifiers, Bool.and_eq_true] at h
          exact List.forall_mem_cons.mpr ⟨hchar (isIdentifierChar_of_start h.1), ih h.2⟩
      | true =>
          by_cases hdot : c = '.'
          · subst hdot
            simp only [isDottedIdentifiers, if_true] at h
            exact List.forall_mem_cons.mpr ⟨Or.inl (by decide), ih h⟩
          · simp only [isDottedIdentifiers, hdot, if_false, Bool.and_eq_true] at h
            exact List.forall_mem_cons.mpr ⟨hchar h.1, ih h.2⟩

/-- A class name begins like an identifier. -/
theorem exists_head (h : isClassName name = true) :
    ∃ c rest, name.toList = c :: rest ∧ isIdentifierStart c = true := by
  unfold isClassName at h
  cases hcs : name.toList with
  | nil =>
      rw [hcs] at h
      cases h
  | cons c rest =>
      rw [hcs, isDottedIdentifiers, Bool.and_eq_true] at h
      exact ⟨c, rest, rfl, h.1⟩

end Characters

section Inference

/-- A class name is no number. -/
theorem inferNumber?_className (h : isClassName name = true) :
    Value.inferNumber? name.toList = none := by
  obtain ⟨c, rest, hname, hstart⟩ := exists_head h
  have hblank : Text.isBlank c = false := by
    rcases isWordChar_or_eq h c (by rw [hname]; exact List.mem_cons_self) with hword | rfl
    · exact Value.not_blank_of_isWordChar hword
    · decide
  rw [Option.eq_none_iff_forall_ne_some]
  intro v hv
  obtain ⟨l, hl, -⟩ := Value.inferNumber?_eq_some_iff.mp hv
  exact not_literalHead hstart (hl.head hname hblank)

theorem scan?_underscore (rest : List Char) : Json.Mode.idle.scan? ('_' :: rest) = none := by
  rw [Json.Mode.scan?_cons]
  rfl

/-- A class name is no word of a document, unless it is the name of a literal. -/
theorem ofWord?_className (h : isClassName name = true)
    (hne : name ≠ "null" ∧ name ≠ "true" ∧ name ≠ "false") :
    Json.Token.ofWord? name.toList = none := by
  obtain ⟨c, rest, hname, hstart⟩ := exists_head h
  have hnumber : Json.Number.ofWord? name.toList = none := by
    rw [Option.eq_none_iff_forall_ne_some]
    intro n hn
    obtain ⟨⟨l, hl⟩, -⟩ := Json.Number.exists_spells hn
    rw [hname] at hl
    exact not_literalHead hstart hl.head
  unfold Json.Token.ofWord?
  split
  next heq => exact absurd (String.toList_injective heq) hne.1
  next heq => exact absurd (String.toList_injective heq) hne.2.1
  next heq => exact absurd (String.toList_injective heq) hne.2.2
  next => rw [hnumber, Option.map_none]

/-- A class name is no document, unless it is the name of a literal. -/
theorem read?_className (h : isClassName name = true)
    (hne : name ≠ "null" ∧ name ≠ "true" ∧ name ≠ "false") : Json.read? name = none := by
  have hwords : ∀ w : List Char, w ⊆ name.toList → '_' ∉ w → ∀ c ∈ w, Json.isWordChar c = true := by
    intro w hsub hw c hc
    rcases isWordChar_or_eq h c (hsub hc) with hword | rfl
    · exact hword
    · exact absurd hc hw
  have hscan : Json.Mode.idle.scan? name.toList = none := by
    by_cases hunderscore : '_' ∈ name.toList
    · -- the word in front of the first underscore ends there, and nothing goes on with one
      obtain ⟨w, rest, hname, hw⟩ := List.eq_append_cons_of_mem hunderscore
      have hword := hwords w (by rw [hname]; exact List.subset_append_left _ _) hw
      rw [hname]
      cases w with
      | nil => exact scan?_underscore rest
      | cons c w =>
          have hend : ∀ d ∈ ('_' :: rest).head?, Json.isWordChar d = false := by
            simp [Json.isWordChar]
          rw [Json.Mode.scan?_word (List.cons_ne_nil c w) hword hend, scan?_underscore]
          cases Json.Token.ofWord? (c :: w) <;> rfl
    · obtain ⟨c, rest, hname, -⟩ := exists_head h
      have hword := hwords name.toList (List.Subset.refl _) hunderscore
      have hend : ∀ d ∈ ([] : List Char).head?, Json.isWordChar d = false := by simp
      have hscan := Json.Mode.scan?_word (by simp [hname]) hword hend
      rw [List.append_nil, ofWord?_className h hne] at hscan
      exact hscan
  rw [Json.read?, Json.scan?_eq, hscan]
  rfl

/-- A class name stands for itself unless it is reserved. -/
theorem infer_className (h : isClassName name = true) (hne : name ∉ reservedWords) :
    Value.infer name = .str name := by
  simp only [reservedWords, List.mem_cons, List.not_mem_nil, or_false, not_or] at hne
  obtain ⟨hnone, htrue, hfalse, htrue', hfalse', hnull, hinfinity, hnan⟩ := hne
  have hminus : name ≠ "-Infinity" := by
    rintro rfl
    exact absurd h (by decide)
  have hword : Value.inferWord? name = none := by simp [Value.inferWord?, hnone, htrue, hfalse]
  have hconstant : Value.inferNonFinite? name = none := by
    simp [Value.inferNonFinite?, hinfinity, hminus, hnan]
  rw [Value.infer_of_none hword (inferNumber?_className h) hconstant,
    read?_className h ⟨hnull, htrue', hfalse'⟩]
  rfl

/-- A reserved word never stands for a text. -/
theorem infer_reserved (h : name ∈ reservedWords) (s : String) : Value.infer name ≠ .str s := by
  simp only [reservedWords, List.mem_cons, List.not_mem_nil, or_false] at h
  rcases h with rfl | rfl | rfl | rfl | rfl | rfl | rfl | rfl <;> exact nofun

end Inference

section Lowering

open Forest

variable {root : String}

def classTokens (root name : String) : List String :=
  ["--" ++ root ++ ".__class__", name]

theorem keySegments_class (hroot : isCompoundKey root = false) :
    keySegments (root ++ "." ++ classSegment) = [root, classSegment] := by
  rw [keySegments_join (by decide), keySegments_of_not_compound hroot]
  rfl

/-- The object that a class at a root declares, which must be named by a text. -/
def classNode (root : String) (value : Value) : Except TreeError Node :=
  match value with
  | .str classRef => .ok (Node.new root classRef)
  | value => .error (.invalidClassReference root value.kind)

theorem declareAll_class (hroot : isCompoundKey root = false) (hne : root ≠ "") (value : Value) :
    declareAll [(root ++ "." ++ classSegment, value)] = ([·]) <$> classNode root value := by
  have howner : declaredOwner? (root ++ "." ++ classSegment) = .ok (some root) := by
    refine (declaredOwner?_of_declares (splitKey?_join (by decide))).mpr ⟨?_, ?_, rfl⟩
    · rw [keySegments_class hroot]
      simpa [eq_comm] using And.intro hne (show "" ≠ classSegment by decide)
    · rw [keySegments_of_not_compound hroot]
      exact show 1 ≤ Limits.nestingDepth by decide
  have hfew : ¬Limits.objectCount ≤ 0 := by decide
  cases value <;> simp [declareAll, declare, howner, classNode, hfew, bind, Except.bind] <;> rfl

/-- The forest of a single class key is its root. -/
theorem build_class {building : Preferences.Building} {c : Arguments} {value : Value}
    (hroot : isCompoundKey root = false) (hne : root ≠ "")
    (hc : c.toList = [(root ++ "." ++ classSegment, value)]) :
    (build building c).result = (fun node => ⟨[node]⟩) <$> classNode root value := by
  have hsplit : splitKey? (root ++ "." ++ classSegment) = some (root, classSegment) :=
    splitKey?_join (by decide)
  cases value with
  | str classRef =>
      have hnested : nestedPaths [Node.new root classRef] = [] := by
        simpa [Node.new, Node.path, hroot] using nestedPaths_perm [Node.new root classRef]
      refine build_result_eq_ok_iff.mpr ⟨[.new root classRef], [.new root classRef], ?_, ?_, ?_⟩
      · rw [hc, declareAll_class hroot hne]
        rfl
      · simp [hc, placeAll, place, hsplit]
      · rw [hnested]
        rfl
  | _ =>
      rw [build_result, ofCompound, hc, declareAll_class hroot hne]
      rfl

/-- Tokens that declare a class at a root are lowered to what the class declares. -/
theorem lower_class (prefs : Preferences) (elapsed : String)
    (hroot : isCompoundKey root = false) (hne : root ≠ "")
    (hkey : (root ++ ".__class__").utf8ByteSize ≤ Limits.keyLength)
    (hname : name.utf8ByteSize ≤ Limits.valueLength) :
    (lower prefs elapsed (classTokens root name)).result.map (·.forest.roots) =
      (([·]) <$> classNode root (Value.infer name)).mapError .tree := by
  have hjoin : root ++ "." ++ classSegment = root ++ ".__class__" := by
    rw [String.append_assoc]
    rfl
  have htokens : classTokens root name = flagTokens [(root ++ "." ++ classSegment, name)] := by
    simp [classTokens, flagTokens, classSegment, String.append_assoc]
  have hpair : WellFormedPair (root ++ "." ++ classSegment, name) :=
    ⟨by simp [hjoin, String.append_eq_empty_iff], hjoin ▸ hkey, hname⟩
  have htokenizable : Tokenizable [(root ++ "." ++ classSegment, name)] :=
    ⟨show 2 ≤ Limits.tokenCount by decide, List.forall_mem_singleton.mpr hpair⟩
  obtain ⟨t, ht, hargs⟩ := tokenize_flagTokens_ok_iff.mpr ⟨htokenizable, rfl⟩
  have hlist : t.args.toList = [(root ++ "." ++ classSegment, Value.infer name)] := by
    rw [hargs]
    exact Arguments.toList_ofList (List.nodup_singleton _)
  have hcompound : (Partition.ofArguments t.args).compound.toList =
      [(root ++ "." ++ classSegment, Value.infer name)] := by
    rw [Partition.toList_compound, hlist]
    simp [isCompoundKey_join]
  have hfree : (Partition.ofArguments t.args).conflict? = none := by
    rw [Partition.conflict?_eq_none_iff, Arguments.keys, Partition.toList_plain, hlist]
    simp [isCompoundKey_join]
  have hstages : ∀ reject, Lowered.ofTokenized reject t = Lowered.ofTokenized false t := by
    intro reject
    cases reject with
    | true => exact Lowered.ofTokenized_of_free hfree
    | false => rfl
  rw [htokens, Lowered.lower_result, ht]
  change (Lowered.ofTokenized _ t).map _ = _
  rw [hstages]
  simp only [Lowered.ofTokenized, build_class hroot hne hcompound]
  cases classNode root (Value.infer name) <;> rfl

/-- A class that is no text is refused with its kind. -/
theorem classNode_of_ne_str {value : Value} (h : ∀ s, value ≠ .str s) :
    classNode root value = .error (.invalidClassReference root value.kind) := by
  cases value with
  | str s => exact absurd rfl (h s)
  | _ => rfl

end Lowering

/-- The name of a class is kept as it is on the command line and declares the class, except for
eight words: these stand for something else, and no class is declared by them. -/
theorem lower_className (prefs : Preferences) (elapsed root name : String)
    (hname : isClassName name = true) (hroot : isCompoundKey root = false) (hne : root ≠ "")
    (hkey : (root ++ ".__class__").utf8ByteSize ≤ Limits.keyLength) :
    (name ∉ reservedWords → Value.infer name = .str name) ∧
    (name ∈ reservedWords → ∀ s, Value.infer name ≠ .str s) ∧
    (name.utf8ByteSize ≤ Limits.valueLength →
      (name ∉ reservedWords →
        ∃ l, (lower prefs elapsed ["--" ++ root ++ ".__class__", name]).result = .ok l ∧
          l.forest.roots = [Node.new root name]) ∧
      (name ∈ reservedWords →
        (lower prefs elapsed ["--" ++ root ++ ".__class__", name]).result =
          .error (.tree (.invalidClassReference root (Value.infer name).kind)))) := by
  refine ⟨infer_className hname, infer_reserved, fun hshort => ⟨fun hfree => ?_, fun hword => ?_⟩⟩
  · have hlower := lower_class prefs elapsed hroot hne hkey hshort
    rw [infer_className hname hfree] at hlower
    exact Outcome.map_eq_ok_iff.mp hlower
  · have hlower := lower_class prefs elapsed hroot hne hkey hshort
    rw [classNode_of_ne_str (infer_reserved hword)] at hlower
    cases hresult : (lower prefs elapsed (classTokens root name)).result with
    | ok l =>
        rw [hresult] at hlower
        cases hlower
    | error e =>
        rw [hresult] at hlower
        cases hlower
        exact hresult

theorem lower_className_dotted :
    (isClassName "pkg.Net_2" = true ∧ isCompoundKey "x" = false ∧
      ("x" ++ ".__class__").utf8ByteSize ≤ Limits.keyLength) ∧
    (∃ l, (lower {} "0" ["--x.__class__", "pkg.Net_2"]).result = .ok l ∧
      l.forest.roots = [Node.new "x" "pkg.Net_2"]) ∧
    (lower {} "0" ["--x.__class__", "NaN"]).result =
      .error (.tree (.invalidClassReference "x" "float")) := by
  obtain ⟨-, -, hlower⟩ := lower_className {} "0" "x" "pkg.Net_2" (by decide) (by decide)
    (by decide) (by decide)
  obtain ⟨-, -, hrefuse⟩ := lower_className {} "0" "x" "NaN" (by decide) (by decide)
    (by decide) (by decide)
  exact ⟨⟨by decide, by decide, by decide⟩, (hlower (by decide)).1 (by decide),
    (hrefuse (by decide)).2 (by decide)⟩

end Hyperparams

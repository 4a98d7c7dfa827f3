import Mathlib.Data.List.TakeWhile
import Hyperparams.Tree.Forest

/-!
# Keys and their segments

A compound key is an owner, a separator and a last segment without separators, in exactly one way.
Its segments are those of the owner followed by the last one.
-/

namespace Hyperparams

variable {key owner segment : String}

theorem isCompoundKey_eq_false_iff :
    isCompoundKey key = false ↔ ∀ c ∈ key.toList, c ≠ keySeparator := by
  unfold isCompoundKey
  rw [List.contains_eq_mem, decide_eq_false_iff_not]
  exact ⟨fun h c hc heq => h (heq ▸ hc), fun h hmem => h _ hmem rfl⟩

/-- A key with a separator is no single segment. -/
theorem isCompoundKey_join (owner segment : String) :
    isCompoundKey (owner ++ "." ++ segment) = true := by
  simp [isCompoundKey, keySeparator]

theorem toList_join (owner segment : String) :
    (owner ++ "." ++ segment).toList = owner.toList ++ keySeparator :: segment.toList := by
  simp [keySeparator]

/-- A key is split at its last separator. -/
theorem splitKey?_join (h : isCompoundKey segment = false) :
    splitKey? (owner ++ "." ++ segment) = some (owner, segment) := by
  have hsegment := isCompoundKey_eq_false_iff.mp h
  -- the last separator is the first one of the reversed key
  have hreversed : (owner ++ "." ++ segment).toList.reverse =
      segment.toList.reverse ++ keySeparator :: owner.toList.reverse := by
    rw [toList_join]
    simp
  have hpos : ∀ c ∈ segment.toList.reverse, decide (c ≠ keySeparator) = true := by
    intro c hc
    simpa using hsegment c (List.mem_reverse.mp hc)
  unfold splitKey?
  simp only [hreversed]
  rw [List.dropWhile_append_of_pos hpos, List.takeWhile_append_of_pos hpos]
  simp

/-- The only way to split a key: at its last separator. -/
theorem splitKey?_eq_some_iff :
    splitKey? key = some (owner, segment) ↔
      key = owner ++ "." ++ segment ∧ isCompoundKey segment = false := by
  constructor
  · intro h
    unfold splitKey? at h
    dsimp only at h
    split at h
    next => simp at h
    next c rest hdrop =>
      simp only [Option.some.injEq, Prod.mk.injEq] at h
      obtain ⟨rfl, rfl⟩ := h
      have hc : c = keySeparator := by
        have hhead := List.head?_dropWhile_not (fun c => decide (c ≠ keySeparator))
          key.toList.reverse
        rw [hdrop] at hhead
        simpa using hhead
      subst hc
      constructor
      · have hwhole := congrArg List.reverse (List.takeWhile_append_dropWhile
          (p := fun c => decide (c ≠ keySeparator)) (l := key.toList.reverse))
        rw [hdrop] at hwhole
        apply String.toList_injective
        rw [toList_join]
        simpa using hwhole.symm
      · rw [isCompoundKey_eq_false_iff]
        intro c hc
        have hmem : c ∈ key.toList.reverse.takeWhile (fun c => decide (c ≠ keySeparator)) := by
          simpa using hc
        simpa using List.mem_takeWhile_imp hmem
  · rintro ⟨rfl, h⟩
    exact splitKey?_join h

theorem splitKey?_eq_none_iff : splitKey? key = none ↔ isCompoundKey key = false := by
  constructor
  · intro h
    unfold splitKey? at h
    dsimp only at h
    split at h
    next hdrop =>
      rw [List.dropWhile_eq_nil_iff] at hdrop
      rw [isCompoundKey_eq_false_iff]
      intro c hc
      simpa using hdrop c (List.mem_reverse.mpr hc)
    next => simp at h
  · intro h
    cases hsplit : splitKey? key with
    | none => rfl
    | some parts =>
        have hkey := (splitKey?_eq_some_iff.mp hsplit).1
        rw [hkey, isCompoundKey_join] at h
        cases h

/-- A compound key splits. -/
theorem exists_splitKey? (h : isCompoundKey key = true) :
    ∃ owner segment, splitKey? key = some (owner, segment) := by
  cases hsplit : splitKey? key with
  | none =>
      rw [splitKey?_eq_none_iff, h] at hsplit
      cases hsplit
  | some parts => exact ⟨parts.1, parts.2, rfl⟩

/-- The first segment of a key is that of its owner. -/
theorem keyRoot_join (owner segment : String) :
    keyRoot (owner ++ "." ++ segment) = keyRoot owner := by
  unfold keyRoot
  rw [toList_join, List.takeWhile_append]
  split
  next hlength =>
    have hself := List.takeWhile_eq_self_iff.mp
      ((List.takeWhile_prefix _).sublist.eq_of_length hlength)
    rw [List.takeWhile_eq_self_iff.mpr hself]
    simp
  next => rfl

/-- Splitting a segment off a key keeps its root. -/
theorem keyRoot_of_splitKey? (h : splitKey? key = some (owner, segment)) :
    keyRoot key = keyRoot owner := by
  rw [(splitKey?_eq_some_iff.mp h).1]
  exact keyRoot_join owner segment

/-- A key of one segment is its first segment. -/
theorem keyRoot_of_not_compound (h : isCompoundKey key = false) : keyRoot key = key := by
  unfold keyRoot
  rw [List.takeWhile_eq_self_iff.mpr, String.ofList_toList]
  intro c hc
  exact decide_eq_true (isCompoundKey_eq_false_iff.mp h c hc)

section Pieces

variable {separator : Char} {before after cs : List Char}

theorem pieces_ne_nil (separator : Char) (cs : List Char) : Text.pieces separator cs ≠ [] := by
  cases cs with
  | nil => simp [Text.pieces]
  | cons c rest =>
      unfold Text.pieces
      split
      · simp
      · split <;> simp

/-- The pieces of a text with a separator inside are those on both sides. -/
theorem pieces_append_separator (separator : Char) (before after : List Char) :
    Text.pieces separator (before ++ separator :: after) =
      Text.pieces separator before ++ Text.pieces separator after := by
  induction before with
  | nil => simp [Text.pieces]
  | cons c rest ih =>
      simp only [List.cons_append, Text.pieces, ih]
      split
      · rfl
      · cases hpieces : Text.pieces separator rest with
        | nil => exact absurd hpieces (pieces_ne_nil separator rest)
        | cons piece others => rfl

theorem pieces_of_forall_ne (h : ∀ c ∈ cs, c ≠ separator) : Text.pieces separator cs = [cs] := by
  induction cs with
  | nil => rfl
  | cons c rest ih =>
      have hrest := ih fun d hd => h d (List.mem_cons_of_mem c hd)
      have hc := h c List.mem_cons_self
      simp [Text.pieces, hrest, hc]

/-- There is one piece more than there are separators. -/
theorem length_pieces (separator : Char) (cs : List Char) :
    (Text.pieces separator cs).length = cs.count separator + 1 := by
  induction cs with
  | nil => rfl
  | cons c rest ih =>
      unfold Text.pieces
      by_cases hc : c = separator
      · simp [hc, ih]
      · cases hpieces : Text.pieces separator rest with
        | nil => exact absurd hpieces (pieces_ne_nil separator rest)
        | cons piece others => simpa [hc, hpieces] using ih

end Pieces

/-- A segment behind a key is its last one. -/
theorem keySegments_join (h : isCompoundKey segment = false) :
    keySegments (owner ++ "." ++ segment) = keySegments owner ++ [segment] := by
  unfold keySegments
  rw [toList_join, pieces_append_separator,
    pieces_of_forall_ne (isCompoundKey_eq_false_iff.mp h)]
  simp

theorem keySegments_of_not_compound (h : isCompoundKey key = false) : keySegments key = [key] := by
  unfold keySegments
  rw [pieces_of_forall_ne (isCompoundKey_eq_false_iff.mp h)]
  simp

/-- A key has one segment more than separators. -/
theorem length_keySegments (key : String) :
    (keySegments key).length = Forest.nesting key + 1 := by
  simp [keySegments, Forest.nesting, length_pieces]

/-- Splitting a key takes one separator away. -/
theorem nesting_of_splitKey? (h : splitKey? key = some (owner, segment)) :
    Forest.nesting key = Forest.nesting owner + 1 := by
  obtain ⟨rfl, hsegment⟩ := splitKey?_eq_some_iff.mp h
  have hlength := length_keySegments (owner ++ "." ++ segment)
  rw [keySegments_join hsegment, List.length_append, length_keySegments] at hlength
  simp at hlength
  omega

/-- No key is its own owner. -/
theorem ne_of_splitKey? (h : splitKey? key = some (owner, segment)) : owner ≠ key := by
  rintro rfl
  have hnesting := nesting_of_splitKey? h
  omega

theorem nesting_eq_zero (h : isCompoundKey key = false) : Forest.nesting key = 0 := by
  have hlength := length_keySegments key
  rw [keySegments_of_not_compound h] at hlength
  simpa using hlength.symm

end Hyperparams

/-!
# Boundaries in texts

Offsets count bytes of UTF-8. A text can be cut where a character begins or the text ends. The last
such boundary up to an offset is looked for backwards, one byte at a time.
-/

namespace Hyperparams

/-- The text in front of some bytes, if there are so many and no character is cut in two. -/
def takeBytes? (count : Nat) (text : String) : Option String :=
  if h : (String.Pos.Raw.mk count).IsValid text then
    some (text.sliceTo (text.pos ⟨count⟩ h)).copy
  else none

namespace Text

/-- Whether a character begins at an offset, or the text ends there. -/
def isBoundary (text : String) (offset : Nat) : Bool :=
  (String.Pos.Raw.mk offset).isValid text

/-- The last boundary up to an offset, if there is one. -/
def boundaryUpTo? (text : String) (offset : Nat) : Option Nat :=
  if isBoundary text offset then some offset
  else match offset with
    | 0 => none
    | offset + 1 => boundaryUpTo? text offset

/-- A boundary is the end of a beginning of the text. -/
theorem isBoundary_iff {text : String} {offset : Nat} :
    isBoundary text offset = true ↔
      ∃ before after, text = before ++ after ∧ offset = before.utf8ByteSize := by
  rw [isBoundary, String.Pos.Raw.isValid_eq_true_iff, String.Pos.Raw.isValid_iff_exists_append]
  simp [String.Pos.Raw.ext_iff]

/-- Every text begins at a boundary. -/
theorem isBoundary_zero (text : String) : isBoundary text 0 = true :=
  isBoundary_iff.mpr ⟨"", text, String.empty_append.symm, rfl⟩

/-- The search stops at the first boundary that it meets. -/
theorem boundaryUpTo?_eq_some_iff {text : String} {offset cut : Nat} :
    boundaryUpTo? text offset = some cut ↔ cut ≤ offset ∧ isBoundary text cut = true ∧
      ∀ n, cut < n → n ≤ offset → isBoundary text n = false := by
  induction offset with
  | zero =>
      simp only [boundaryUpTo?, isBoundary_zero, if_true, Option.some.injEq]
      constructor
      · rintro rfl
        exact ⟨Nat.le_refl 0, isBoundary_zero text, fun n hlt hle => by omega⟩
      · rintro ⟨hle, -, -⟩
        exact (Nat.le_zero.mp hle).symm
  | succ offset ih =>
      unfold boundaryUpTo?
      split
      next hboundary =>
        rw [Option.some.injEq]
        constructor
        · rintro rfl
          exact ⟨Nat.le_refl _, hboundary, fun n hlt hle => by omega⟩
        · rintro ⟨hle, -, hnone⟩
          by_cases hlt : cut < offset + 1
          · rw [hnone _ hlt (Nat.le_refl _)] at hboundary
            cases hboundary
          · omega
      next hboundary =>
        rw [ih]
        constructor
        · rintro ⟨hle, hcut, hnone⟩
          refine ⟨Nat.le_succ_of_le hle, hcut, fun n hlt hn => ?_⟩
          rcases Nat.lt_or_ge offset n with hlast | hbefore
          · rw [show n = offset + 1 by omega]
            exact Bool.eq_false_iff.mpr hboundary
          · exact hnone n hlt hbefore
        · rintro ⟨hle, hcut, hnone⟩
          have hne : cut ≠ offset + 1 := fun heq => hboundary (heq ▸ hcut)
          exact ⟨by omega, hcut, fun n hlt hn => hnone n hlt (Nat.le_succ_of_le hn)⟩

/-- The search never goes below the beginning of the text. -/
theorem isSome_boundaryUpTo? (text : String) (offset : Nat) :
    (boundaryUpTo? text offset).isSome = true := by
  induction offset with
  | zero => simp [boundaryUpTo?, isBoundary_zero]
  | succ offset ih =>
      unfold boundaryUpTo?
      split
      · rfl
      · exact ih

end Text

/-- Cutting between two texts gives the first. -/
theorem takeBytes?_append (before after : String) :
    takeBytes? before.utf8ByteSize (before ++ after) = some before := by
  have hvalid : (String.Pos.Raw.mk before.utf8ByteSize).IsValid (before ++ after) :=
    String.Pos.Raw.isValid_iff_exists_append.mpr ⟨before, after, rfl, rfl⟩
  have hsplits : ((before ++ after).pos ⟨before.utf8ByteSize⟩ hvalid).Splits before after :=
    ⟨rfl, rfl⟩
  rw [takeBytes?, dif_pos hvalid]
  exact congrArg some ((String.Pos.splits _).eq_left hsplits)

/-- A text can be cut at its boundaries. -/
theorem isSome_takeBytes? {text : String} {offset : Nat} (h : Text.isBoundary text offset = true) :
    (takeBytes? offset text).isSome = true := by
  obtain ⟨before, after, rfl, rfl⟩ := Text.isBoundary_iff.mp h
  rw [takeBytes?_append]
  rfl

end Hyperparams

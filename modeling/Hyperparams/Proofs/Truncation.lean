import Mathlib.Data.List.Infix
import Mathlib.Data.String.Basic
import Hyperparams.Log.Event

/-!
# Truncated messages

A character has at most four bytes, so the search for the last boundary up to an offset goes back
over at most three. What is in front of that boundary is the longest beginning of the text that ends
at the offset or before it, and this is what is kept of a long message.
-/

namespace Hyperparams

section Boundaries

open Text

variable {text kept : String} {offset cut : Nat} {cs : List Char}

/-- What is taken of a text is followed by the rest of it. -/
theorem takeBytes?_eq_some_iff :
    takeBytes? cut text = some kept ↔
      kept.utf8ByteSize = cut ∧ ∃ rest, text = kept ++ rest := by
  constructor
  · intro h
    have hboundary : isBoundary text cut = true := by
      rw [isBoundary, String.Pos.Raw.isValid_eq_true_iff]
      by_contra hinvalid
      rw [takeBytes?, dif_neg hinvalid] at h
      cases h
    obtain ⟨before, after, rfl, rfl⟩ := isBoundary_iff.mp hboundary
    rw [takeBytes?_append] at h
    cases h
    exact ⟨rfl, after, rfl⟩
  · rintro ⟨rfl, rest, rfl⟩
    exact takeBytes?_append kept rest

/-- The characters of a beginning of a text end at a boundary. -/
theorem isBoundary_of_prefix (h : cs <+: text.toList) :
    isBoundary text (String.ofList cs).utf8ByteSize = true := by
  obtain ⟨rest, hrest⟩ := h
  refine isBoundary_iff.mpr ⟨String.ofList cs, String.ofList rest, ?_, rfl⟩
  rw [← String.ofList_append, hrest, String.ofList_toList]

/-- Up to the end of a text the search goes back over at most three bytes, since the next boundary
is one character further. -/
theorem le_boundaryUpTo? (h : boundaryUpTo? text offset = some cut)
    (hsize : offset ≤ text.utf8ByteSize) : offset ≤ cut + 3 := by
  obtain ⟨hle, hcut, hnone⟩ := boundaryUpTo?_eq_some_iff.mp h
  obtain ⟨before, after, rfl, rfl⟩ := isBoundary_iff.mp hcut
  rw [String.utf8ByteSize_append] at hsize
  cases hafter : after.toList with
  | nil =>
      rw [String.toList_eq_nil_iff] at hafter
      subst hafter
      have hempty : "".utf8ByteSize = 0 := rfl
      omega
  | cons c rest =>
      have hnext : isBoundary (before ++ after) (before.utf8ByteSize + c.utf8Size) = true := by
        refine isBoundary_iff.mpr ⟨before ++ String.singleton c, String.ofList rest, ?_, ?_⟩
        · rw [← String.toList_inj]
          simp [hafter]
        · simp
      have hpassed : offset < before.utf8ByteSize + c.utf8Size := by
        by_contra hwithin
        have hpos := c.utf8Size_pos
        rw [hnone _ (by omega) (by omega)] at hnext
        cases hnext
      have hfour := c.utf8Size_le_four
      omega

/-- What is in front of the last boundary up to an offset is the longest beginning that ends there
or before. -/
theorem prefix_of_boundaryUpTo? (h : boundaryUpTo? text offset = some cut)
    (hkept : takeBytes? cut text = some kept) (hcs : cs <+: text.toList)
    (hsize : (String.ofList cs).utf8ByteSize ≤ offset) : cs <+: kept.toList := by
  obtain ⟨-, -, hnone⟩ := boundaryUpTo?_eq_some_iff.mp h
  obtain ⟨rfl, rest, rfl⟩ := takeBytes?_eq_some_iff.mp hkept
  have hle : (String.ofList cs).utf8ByteSize ≤ kept.utf8ByteSize := by
    by_contra hlonger
    have hboundary := isBoundary_of_prefix hcs
    rw [hnone _ (by omega) hsize] at hboundary
    cases hboundary
  have hprefix : kept.toList <+: (kept ++ rest).toList := ⟨rest.toList, by simp⟩
  rcases List.prefix_or_prefix_of_prefix hcs hprefix with hshorter | ⟨more, hmore⟩
  · exact hshorter
  · -- A beginning that goes on behind the boundary has no more bytes, so it goes on with nothing.
    have hcs : String.ofList cs = kept ++ String.ofList more := by
      rw [← hmore, String.ofList_append, String.ofList_toList]
    rw [hcs, String.utf8ByteSize_append] at hle
    have hnothing : String.ofList more = "" := String.utf8ByteSize_eq_zero_iff.mp (by omega)
    rw [String.ofList_eq_empty_iff] at hnothing
    rw [← hmore, hnothing, List.append_nil]

end Boundaries

namespace Log

/-- How a long message is cut: where, and what is in front of the cut. -/
structure CutAt (message : String) (cut : Nat) (kept : String) : Prop where
  /-- The search for a boundary succeeds, going back from the limit to the cut. -/
  found : Text.boundaryUpTo? message Limits.logMessage = some cut
  le_limit : cut ≤ Limits.logMessage
  /-- Each step goes back over one byte, so there are at most three. -/
  limit_le : Limits.logMessage ≤ cut + 3
  boundary : Text.isBoundary message cut = true
  /-- No character is cut in two. -/
  taken : takeBytes? cut message = some kept
  size : kept.utf8ByteSize = cut
  isPrefix : kept.toList <+: message.toList
  longest : ∀ cs, cs <+: message.toList →
    (String.ofList cs).utf8ByteSize ≤ Limits.logMessage → cs <+: kept.toList

/-- A message beyond the limit can be cut. -/
theorem exists_cutAt {message : String} (h : Limits.logMessage < message.utf8ByteSize) :
    ∃ cut kept, CutAt message cut kept := by
  obtain ⟨cut, hcut⟩ :=
    Option.isSome_iff_exists.mp (Text.isSome_boundaryUpTo? message Limits.logMessage)
  obtain ⟨hle, hboundary, -⟩ := Text.boundaryUpTo?_eq_some_iff.mp hcut
  obtain ⟨kept, hkept⟩ := Option.isSome_iff_exists.mp (isSome_takeBytes? hboundary)
  obtain ⟨hsize, rest, hrest⟩ := takeBytes?_eq_some_iff.mp hkept
  have hprefix : kept.toList <+: message.toList := ⟨rest.toList, by simp [hrest]⟩
  exact ⟨cut, kept, {
    found := hcut
    le_limit := hle
    limit_le := le_boundaryUpTo? hcut h.le
    boundary := hboundary
    taken := hkept
    size := hsize
    isPrefix := hprefix
    longest := fun _ hcs hlimit => prefix_of_boundaryUpTo? hcut hkept hcs hlimit }⟩

/-- Every message can be truncated. -/
theorem truncate?_eq_truncate (message : String) : truncate? message = some (truncate message) :=
  (Option.some_get _).symm

/-- A message within the limit is kept as it is. -/
theorem truncate_of_le {message : String} (h : message.utf8ByteSize ≤ Limits.logMessage) :
    truncate message = message := by
  have hwhole : truncate? message = some message := if_neg (Nat.not_lt.mpr h)
  exact Option.some.inj ((truncate?_eq_truncate message).symm.trans hwhole)

/-- A message that is cut ends in an ellipsis. -/
theorem CutAt.truncate_eq {message kept : String} {cut : Nat} (h : CutAt message cut kept)
    (hlong : Limits.logMessage < message.utf8ByteSize) : truncate message = kept ++ "..." := by
  have hcut : truncate? message = some (kept ++ "...") := by
    simp [truncate?, hlong, h.found, h.taken]
  exact Option.some.inj ((truncate?_eq_truncate message).symm.trans hcut)

/-- To make an event never fails, whatever its message. A message within the limit is kept whole,
and of a longer one the longest beginning within the limit. -/
theorem Event.make_message (level : Level) (code : Code) (message : String)
    (context : List (String × String)) :
    let event := make level code message context
    truncate? message = some event.message ∧
      if message.utf8ByteSize ≤ Limits.logMessage then event.message = message
      else ∃ cut kept, CutAt message cut kept ∧ event.message = kept ++ "..." := by
  refine ⟨truncate?_eq_truncate message, ?_⟩
  split
  next hshort => exact truncate_of_le hshort
  next hlong =>
    obtain ⟨cut, kept, hcut⟩ := exists_cutAt (Nat.lt_of_not_le hlong)
    exact ⟨cut, kept, hcut, hcut.truncate_eq (Nat.lt_of_not_le hlong)⟩

end Log

end Hyperparams

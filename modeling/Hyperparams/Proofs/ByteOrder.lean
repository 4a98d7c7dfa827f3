import Mathlib.Data.String.Basic
import Mathlib.Order.RelClasses

/-!
# The order of bytes

Texts are ordered by the codes of their characters. UTF-8 keeps that order: the first byte grows
with the number of bytes, and the bytes of two characters of one length are compared as the digits
of their codes to the base 64. So a table of texts that ascends also ascends by bytes.
-/

namespace Hyperparams.Text

def bytes (text : String) : List UInt8 :=
  text.toByteArray.data.toList

theorem bytes_eq (text : String) : bytes text = text.toList.flatMap String.utf8EncodeChar := by
  have h : text.toByteArray = text.toList.utf8Encode := by
    rw [← String.toByteArray_ofList, String.ofList_toList]
  rw [bytes, h, List.utf8Encode, List.data_toByteArray]

theorem code_lt (c : Char) : c.val.toNat < 0x110000 := by
  have h : Nat.isValidChar c.val.toNat := c.valid
  unfold Nat.isValidChar at h
  omega

/-- A smaller character has smaller bytes, and what follows does not count. -/
theorem utf8EncodeChar_append_lt {c d : Char} (h : c < d) (rest rest' : List UInt8) :
    String.utf8EncodeChar c ++ rest < String.utf8EncodeChar d ++ rest' := by
  have hcodes : c.val.toNat < d.val.toNat := h
  have hbound := code_lt d
  have hdigits (n : Nat) : n / 4096 = n / 64 / 64 ∧ n / 262144 = n / 64 / 64 / 64 := by omega
  rw [String.utf8EncodeChar.eq_1, String.utf8EncodeChar.eq_1]
  simp only [hdigits]
  generalize c.val.toNat = m at hcodes ⊢
  generalize d.val.toNat = n at hcodes hbound ⊢
  -- One case for each pair of lengths.
  split_ifs <;>
    simp only [List.cons_append, List.nil_append, List.cons_lt_cons_iff, UInt8.lt_iff_toNat_lt,
      ← UInt8.toNat_inj, UInt8.toNat_ofNat'] <;>
    omega

/-- Encoding characters in UTF-8 keeps the order of texts. -/
theorem flatMap_utf8EncodeChar_lt {cs ds : List Char} (h : cs < ds) :
    cs.flatMap String.utf8EncodeChar < ds.flatMap String.utf8EncodeChar := by
  induction h with
  | @nil d ds =>
      obtain ⟨byte, more, hbytes⟩ :=
        List.exists_cons_of_ne_nil (String.utf8EncodeChar_ne_nil (c := d))
      rw [List.flatMap_cons, hbytes]
      exact List.Lex.nil
  | rel hlt =>
      rw [List.flatMap_cons, List.flatMap_cons]
      exact utf8EncodeChar_append_lt hlt _ _
  | cons _ ih =>
      rw [List.flatMap_cons, List.flatMap_cons]
      exact List.append_left_lt ih

theorem bytes_lt {a b : String} (h : a < b) : bytes a < bytes b := by
  rw [bytes_eq, bytes_eq]
  exact flatMap_utf8EncodeChar_lt (String.lt_iff.mp h)

/-- Texts are ordered as their bytes. -/
theorem bytes_lt_iff {a b : String} : bytes a < bytes b ↔ a < b := by
  refine ⟨fun h => ?_, bytes_lt⟩
  rcases trichotomous_of (· < ·) a b with hlt | rfl | hgt
  · exact hlt
  · exact absurd h (irrefl _)
  · exact absurd h (asymm (bytes_lt hgt))

end Hyperparams.Text

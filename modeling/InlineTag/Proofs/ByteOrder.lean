import Mathlib

/-!
# InlineTag.Proofs.ByteOrder

The order of texts by code points is the order of their UTF-8 bytes.

* `encode_lt`: of two characters the bytes of the lower come first, whatever follows them.
* `bytes_lt_iff`: texts are in the order of their bytes.
-/

namespace InlineTag
namespace Text

/-- The bytes of a text. -/
def bytes (text : String) : List UInt8 :=
  text.toUTF8.data.toList

theorem bytes_eq (text : String) : bytes text = text.toList.flatMap String.utf8EncodeChar := by
  rw [bytes, String.toUTF8, ← String.utf8Encode_toList, List.utf8Encode,
    List.toList_data_toByteArray]

theorem byte_lt {m n : Nat} (hn : n < 256) (h : m < n) (front back : List UInt8) :
    UInt8.ofNat m :: front < UInt8.ofNat n :: back := by
  refine List.cons_lt_cons_iff.mpr (.inl ?_)
  rw [UInt8.lt_iff_toNat_lt, UInt8.toNat_ofNat', UInt8.toNat_ofNat']
  omega

theorem byte_lt_of_le {m n : Nat} (hn : n < 256) (h : m ≤ n) {front back : List UInt8}
    (hrest : m = n → front < back) : UInt8.ofNat m :: front < UInt8.ofNat n :: back := by
  rcases Nat.lt_or_eq_of_le h with h | h
  · exact byte_lt hn h front back
  · exact List.cons_lt_cons_iff.mpr (.inr ⟨congrArg _ h, hrest h⟩)

/-- The bytes of a lower character come first, whatever follows them. A character of more bytes has
a higher first byte, and of as many bytes the first that differ hold the first digits that
differ. -/
theorem encode_lt {c d : Char} (h : c < d) (front back : List UInt8) :
    String.utf8EncodeChar c ++ front < String.utf8EncodeChar d ++ back := by
  have hval : c.val.toNat < d.val.toNat := h
  have hbound : d.val.toNat < 0x110000 := by
    rcases d.valid with hd | ⟨-, hd⟩ <;> omega
  rw [String.utf8EncodeChar, String.utf8EncodeChar]
  generalize c.val.toNat = v at *
  generalize d.val.toNat = w at *
  by_cases hw1 : w ≤ 0x7f
  · rw [if_pos hw1, if_pos (by omega)]
    exact byte_lt (by omega) hval _ _
  rw [if_neg hw1]
  by_cases hv1 : v ≤ 0x7f
  · rw [if_pos hv1]
    split_ifs
    all_goals exact byte_lt (by omega) (by omega) _ _
  rw [if_neg hv1]
  by_cases hw2 : w ≤ 0x7ff
  · rw [if_pos hw2, if_pos (by omega)]
    refine byte_lt_of_le (by omega) (by omega) fun hfirst => ?_
    exact byte_lt (by omega) (by omega) _ _
  rw [if_neg hw2]
  by_cases hv2 : v ≤ 0x7ff
  · rw [if_pos hv2]
    split_ifs
    all_goals exact byte_lt (by omega) (by omega) _ _
  rw [if_neg hv2]
  by_cases hw3 : w ≤ 0xffff
  · rw [if_pos hw3, if_pos (by omega)]
    refine byte_lt_of_le (by omega) (by omega) fun hfirst => ?_
    refine byte_lt_of_le (by omega) (by omega) fun hsecond => ?_
    exact byte_lt (by omega) (by omega) _ _
  rw [if_neg hw3]
  by_cases hv3 : v ≤ 0xffff
  · rw [if_pos hv3]
    exact byte_lt (by omega) (by omega) _ _
  rw [if_neg hv3]
  refine byte_lt_of_le (by omega) (by omega) fun hfirst => ?_
  refine byte_lt_of_le (by omega) (by omega) fun hsecond => ?_
  refine byte_lt_of_le (by omega) (by omega) fun hthird => ?_
  exact byte_lt (by omega) (by omega) _ _

theorem flatMap_encode_lt {text other : List Char} (h : text < other) :
    text.flatMap String.utf8EncodeChar < other.flatMap String.utf8EncodeChar := by
  induction h with
  | @nil c rest =>
    rw [List.flatMap_cons]
    obtain ⟨byte, tail, hcons⟩ := List.exists_cons_of_ne_nil (String.utf8EncodeChar_ne_nil (c := c))
    rw [hcons]
    exact List.nil_lt_cons _ _
  | rel hlt => exact encode_lt hlt _ _
  | cons hlt ih => exact List.append_left_lt ih

/-- Texts are in the order of their bytes. -/
theorem bytes_lt_iff {text other : String} : bytes text < bytes other ↔ text < other := by
  have hmono : ∀ {a b : String}, a < b → bytes a < bytes b := by
    intro a b hlt
    rw [bytes_eq, bytes_eq]
    exact flatMap_encode_lt (String.lt_iff_toList_lt.mp hlt)
  constructor
  · intro h
    rcases lt_trichotomy text other with hlt | heq | hlt
    · exact hlt
    · rw [heq] at h
      exact absurd h (List.lt_irrefl _)
    · exact absurd (hmono hlt) (List.lt_asymm h)
  · exact hmono

end Text
end InlineTag

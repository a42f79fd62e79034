import Mathlib.Tactic.SplitIfs
import StreamGateway.Text.Utf8

/-! # The order of bytes is the order of characters

Two texts compare in the same way whether they are read as characters or as the bytes that encode
them. The bytes of one character never begin those of another, and the character with the larger
number has the larger byte at the first place where they differ (`encodeChar_append_lt`), so the
order of the first characters that differ decides the order of the bytes, whatever follows
(`encode_lt_encode`). -/
namespace StreamGateway.Text.Utf8

/-! ### Bytes of a text -/

theorem toList_loop (b : ByteArray) (i : Nat) (read : List UInt8) (hi : i ≤ b.size) :
    ByteArray.toList.loop b i read = read.reverse ++ b.data.toList.drop i := by
  induction h : b.size - i generalizing i read with
  | zero =>
    have hlen : b.data.toList.length ≤ i := by
      rw [Array.length_toList]
      show b.size ≤ i
      omega
    rw [ByteArray.toList.loop, if_neg (by omega), List.drop_eq_nil_of_le hlen, List.append_nil]
  | succ n ih =>
    have hlt : i < b.size := by omega
    rw [ByteArray.toList.loop, if_pos hlt, ih (i + 1) _ (by omega) (by omega)]
    rw [List.drop_eq_getElem_cons (i := i) (by rw [Array.length_toList]; exact hlt)]
    simp [ByteArray.get!, getElem!_pos, hlt]

/-- The bytes of a text are those of its characters, one after the other. -/
theorem encode_eq_flatMap (s : String) : encode s = s.toList.flatMap String.utf8EncodeChar := by
  have hbytes : s.toByteArray = s.toList.utf8Encode := String.utf8Encode_toList.symm
  rw [encode, String.toUTF8_eq_toByteArray, ByteArray.toList,
    toList_loop _ _ _ (Nat.zero_le _), hbytes, List.utf8Encode]
  simp

/-! ### One character -/

/-- **The bytes of a smaller character come first**, whatever follows them on either side. -/
theorem encodeChar_append_lt {c d : Char} (h : c < d) (x y : List UInt8) :
    String.utf8EncodeChar c ++ x < String.utf8EncodeChar d ++ y := by
  have hcd : c.val.toNat < d.val.toNat := h
  have hd : d.val.toNat < 0x110000 := by
    rcases d.valid with hlow | hhigh
    · have : d.val.toNat < 0xd800 := hlow
      omega
    · exact hhigh.2
  -- all quotients as repeated divisions by 64, so that each byte holds the remainder of the one
  -- before
  have hquot (v : Nat) : v / 4096 = v / 64 / 64 ∧ v / 262144 = v / 64 / 64 / 64 := by omega
  simp only [String.utf8EncodeChar, hquot]
  -- the number of bytes grows with the character, so only equal lengths compare byte by byte
  split_ifs <;>
    simp only [List.cons_append, List.nil_append, List.cons_lt_cons_iff, UInt8.lt_iff_toNat_lt,
      ← UInt8.toNat_inj, UInt8.toNat_ofNat'] <;>
    omega

/-! ### Texts -/

theorem flatMap_encodeChar_lt {cs ds : List Char} (h : cs < ds) :
    cs.flatMap String.utf8EncodeChar < ds.flatMap String.utf8EncodeChar := by
  induction cs generalizing ds with
  | nil =>
    cases ds with
    | nil => exact absurd h (List.lt_irrefl _)
    | cons d ds =>
      rw [List.flatMap_nil, List.flatMap_cons]
      cases hd : String.utf8EncodeChar d with
      | nil => exact absurd hd String.utf8EncodeChar_ne_nil
      | cons b bs => exact List.nil_lt_cons _ _
  | cons c cs ih =>
    cases ds with
    | nil => exact absurd h (List.not_lt_nil _)
    | cons d ds =>
      rw [List.flatMap_cons, List.flatMap_cons]
      rcases List.cons_lt_cons_iff.mp h with hcd | ⟨rfl, hrest⟩
      · exact encodeChar_append_lt hcd _ _
      · exact List.append_left_lt (ih hrest)

/-- **A smaller text has smaller bytes.** -/
theorem encode_lt_encode {a b : String} (h : a < b) : encode a < encode b := by
  rw [encode_eq_flatMap, encode_eq_flatMap]
  exact flatMap_encodeChar_lt h

end StreamGateway.Text.Utf8

import StreamGateway.Proofs.Text.ByteOrder

/-! # Encoded text is read back

The bytes of every text decode to that text, and no other bytes do (`decode_eq_ok_iff`). One
character at a time: its bytes have the width that the first of them announces, the others continue
it, and its number is put together again from their bits (`decodeFrom_encodeChar`); conversely the
bytes of a number that was put together are those it came from. -/
namespace StreamGateway.Text.Utf8

/-! ### Single bytes -/

theorem toNat_bounds (c : Char) : c.toNat < 0x110000 ∧ ¬(0xD800 ≤ c.toNat ∧ c.toNat ≤ 0xDFFF) := by
  have hnumber : c.val.toNat = c.toNat := rfl
  rcases c.valid with hlow | ⟨hhigh, hmost⟩
  · have hlow : c.val.toNat < 0xD800 := hlow
    omega
  · have hhigh : 0xDFFF < c.val.toNat := hhigh
    have hmost : c.val.toNat < 0x110000 := hmost
    omega

theorem width?_eq (b : UInt8) :
    width? b = if b.toNat < 0x80 then some 1 else if 0xC2 ≤ b.toNat ∧ b.toNat ≤ 0xDF then some 2
      else if 0xE0 ≤ b.toNat ∧ b.toNat ≤ 0xEF then some 3
      else if 0xF0 ≤ b.toNat ∧ b.toNat ≤ 0xF4 then some 4 else none := by
  simp [width?, UInt8.le_iff_toNat_le, UInt8.lt_iff_toNat_lt]

theorem isContinuation_iff {b : UInt8} :
    isContinuation b = true ↔ 0x80 ≤ b.toNat ∧ b.toNat ≤ 0xBF := by
  simp [isContinuation, UInt8.le_iff_toNat_le]

/-- The second byte is right if it keeps to the range that the first one asks for. -/
theorem secondOk_of {b second : UInt8} (hsecond : isContinuation second = true)
    (hE0 : b.toNat = 0xE0 → 0xA0 ≤ second.toNat) (hED : b.toNat = 0xED → second.toNat ≤ 0x9F)
    (hF0 : b.toNat = 0xF0 → 0x90 ≤ second.toNat) (hF4 : b.toNat = 0xF4 → second.toNat ≤ 0x8F) :
    secondOk b second = true := by
  rw [isContinuation_iff] at hsecond
  simp only [secondOk, isContinuation, ← UInt8.toNat_inj, UInt8.le_iff_toNat_le, UInt8.reduceToNat]
  split_ifs <;> simp only [Bool.and_eq_true, decide_eq_true_eq] <;> omega

/-- The bytes of a character are read as that character, whatever follows. -/
theorem decodeFrom_encodeChar (index : Nat) (read : List Char) (c : Char) (rest : List UInt8) :
    decodeFrom index read (String.utf8EncodeChar c ++ rest) =
      decodeFrom (index + (String.utf8EncodeChar c).length) (c :: read) rest := by
  obtain ⟨hlt, hsurrogate⟩ := toNat_bounds c
  have hval : c.val.toNat = c.toNat := rfl
  have hbyte {n : Nat} (hn : n < 256) : (UInt8.ofNat n).toNat = n := by
    rw [UInt8.toNat_ofNat', Nat.mod_eq_of_lt hn]
  have hcont (n : Nat) : isContinuation (.ofNat (n % 64 + 128)) = true := by
    rw [isContinuation_iff, hbyte (by omega)]
    omega
  have hlow (n : Nat) : low (.ofNat (n % 64 + 128)) = n % 64 := by
    rw [low, hbyte (by omega)]
    omega
  have hchar {n : Nat} (hn : n = c.toNat) : Char.ofNat n = c := by rw [hn, Char.ofNat_toNat]
  simp only [String.utf8EncodeChar, hval]
  split_ifs with h1 h2 h3
  · have hw : width? (.ofNat c.toNat) = some 1 := by
      rw [width?_eq, hbyte (by omega), if_pos (by omega)]
    rw [List.cons_append, List.nil_append, decodeFrom.eq_def]
    simp only [hw]
    rw [hbyte (by omega), hchar rfl]
    rfl
  · have hw : width? (.ofNat (c.toNat / 64 % 32 + 192)) = some 2 := by
      rw [width?_eq, hbyte (by omega), if_neg (by omega), if_pos (by omega)]
    simp only [List.cons_append, List.nil_append, decodeFrom, hw, hcont, hlow, if_true]
    rw [hbyte (by omega), hchar (by omega)]
    rfl
  · have hw : width? (.ofNat (c.toNat / 4096 % 16 + 224)) = some 3 := by
      rw [width?_eq, hbyte (by omega), if_neg (by omega), if_neg (by omega), if_pos (by omega)]
    have hsecond : secondOk (.ofNat (c.toNat / 4096 % 16 + 224))
        (.ofNat (c.toNat / 64 % 64 + 128)) = true := by
      apply secondOk_of (hcont _) <;> rw [hbyte (by omega), hbyte (by omega)] <;> omega
    simp only [List.cons_append, List.nil_append, decodeFrom, hw, hsecond, hcont, hlow, if_true]
    rw [hbyte (by omega), hchar (by omega)]
    rfl
  · have hw : width? (.ofNat (c.toNat / 262144 % 8 + 240)) = some 4 := by
      rw [width?_eq, hbyte (by omega), if_neg (by omega), if_neg (by omega), if_neg (by omega),
        if_pos (by omega)]
    have hsecond : secondOk (.ofNat (c.toNat / 262144 % 8 + 240))
        (.ofNat (c.toNat / 4096 % 64 + 128)) = true := by
      apply secondOk_of (hcont _) <;> rw [hbyte (by omega), hbyte (by omega)] <;> omega
    simp only [List.cons_append, List.nil_append, decodeFrom, hw, hsecond, hcont, hlow, if_true]
    rw [hbyte (by omega), hchar (by omega)]
    rfl

/-! ### Whole texts -/

theorem decodeFrom_flatMap (index : Nat) (read cs : List Char) :
    decodeFrom index read (cs.flatMap String.utf8EncodeChar) = .ok (read.reverse ++ cs) := by
  induction cs generalizing index read with
  | nil => simp [decodeFrom]
  | cons c cs ih =>
    rw [List.flatMap_cons, decodeFrom_encodeChar, ih, List.reverse_cons, List.append_assoc]
    rfl

/-- **Encoded text is read back.** -/
theorem decode_encode (s : String) : decode (encode s) = .ok s := by
  rw [decode, encode_eq_flatMap, decodeFrom_flatMap]
  simp

/-! ### Only encoded text is read -/

theorem toNat_ofNat {n : Nat} (h : n.isValidChar) : (Char.ofNat n).toNat = n := by
  rw [Char.ofNat, dif_pos h]
  rfl

theorem secondOk_bounds {b second : UInt8} (h : secondOk b second = true) :
    isContinuation second = true ∧ (b.toNat = 0xE0 → 0xA0 ≤ second.toNat) ∧
      (b.toNat = 0xED → second.toNat ≤ 0x9F) ∧
      (b.toNat = 0xF0 → 0x90 ≤ second.toNat) ∧ (b.toNat = 0xF4 → second.toNat ≤ 0x8F) := by
  simp only [secondOk, isContinuation, ← UInt8.toNat_inj, UInt8.le_iff_toNat_le,
    UInt8.reduceToNat] at h ⊢
  split_ifs at h <;> simp only [Bool.and_eq_true, decide_eq_true_eq] at h ⊢ <;> omega

theorem ofNat_eq_byte {n : Nat} {b : UInt8} (h : n = b.toNat) : UInt8.ofNat n = b := by
  rw [h, UInt8.ofNat_toNat]

/-- What the first byte announces fixes its range. -/
theorem width?_bounds {b : UInt8} {w : Nat} (h : width? b = some w) :
    (w = 1 ∧ b.toNat < 0x80) ∨ (w = 2 ∧ 0xC2 ≤ b.toNat ∧ b.toNat ≤ 0xDF) ∨
      (w = 3 ∧ 0xE0 ≤ b.toNat ∧ b.toNat ≤ 0xEF) ∨ (w = 4 ∧ 0xF0 ≤ b.toNat ∧ b.toNat ≤ 0xF4) := by
  rw [width?_eq] at h
  split_ifs at h <;> cases h <;> omega

theorem encodeChar_one {b : UInt8} (hb : width? b = some 1) :
    String.utf8EncodeChar (.ofNat b.toNat) = [b] := by
  have hfirst := width?_bounds hb
  have hchar : (Char.ofNat b.toNat).val.toNat = b.toNat := toNat_ofNat (.inl (by omega))
  simp only [String.utf8EncodeChar, hchar]
  rw [if_pos (by omega), UInt8.ofNat_toNat]

theorem encodeChar_two {b b₁ : UInt8} (hb : width? b = some 2) (h₁ : isContinuation b₁ = true) :
    String.utf8EncodeChar (.ofNat (b.toNat % 32 * 64 + low b₁)) = [b, b₁] := by
  have hfirst := width?_bounds hb
  rw [isContinuation_iff] at h₁
  generalize hn : b.toNat % 32 * 64 + low b₁ = n
  unfold low at hn
  have hchar : (Char.ofNat n).val.toNat = n := toNat_ofNat (.inl (by omega))
  simp only [String.utf8EncodeChar, hchar]
  rw [if_neg (by omega), if_pos (by omega)]
  rw [@ofNat_eq_byte _ b (by omega), @ofNat_eq_byte _ b₁ (by omega)]

theorem encodeChar_three {b b₁ b₂ : UInt8} (hb : width? b = some 3) (h₁ : secondOk b b₁ = true)
    (h₂ : isContinuation b₂ = true) :
    String.utf8EncodeChar (.ofNat (b.toNat % 16 * 4096 + low b₁ * 64 + low b₂)) = [b, b₁, b₂] := by
  obtain ⟨h₁, hE0, hED, -, -⟩ := secondOk_bounds h₁
  have hfirst := width?_bounds hb
  rw [isContinuation_iff] at h₁ h₂
  generalize hn : b.toNat % 16 * 4096 + low b₁ * 64 + low b₂ = n
  unfold low at hn
  have hvalid : n.isValidChar := by
    unfold Nat.isValidChar
    omega
  have hchar : (Char.ofNat n).val.toNat = n := toNat_ofNat hvalid
  simp only [String.utf8EncodeChar, hchar]
  rw [if_neg (by omega), if_neg (by omega), if_pos (by omega)]
  rw [@ofNat_eq_byte _ b (by omega), @ofNat_eq_byte _ b₁ (by omega), @ofNat_eq_byte _ b₂ (by omega)]

theorem encodeChar_four {b b₁ b₂ b₃ : UInt8} (hb : width? b = some 4) (h₁ : secondOk b b₁ = true)
    (h₂ : isContinuation b₂ = true) (h₃ : isContinuation b₃ = true) :
    String.utf8EncodeChar (.ofNat (b.toNat % 8 * 262144 + low b₁ * 4096 + low b₂ * 64 + low b₃)) =
      [b, b₁, b₂, b₃] := by
  obtain ⟨h₁, -, -, hF0, hF4⟩ := secondOk_bounds h₁
  have hfirst := width?_bounds hb
  rw [isContinuation_iff] at h₁ h₂ h₃
  generalize hn : b.toNat % 8 * 262144 + low b₁ * 4096 + low b₂ * 64 + low b₃ = n
  unfold low at hn
  have hvalid : n.isValidChar := by
    unfold Nat.isValidChar
    omega
  have hchar : (Char.ofNat n).val.toNat = n := toNat_ofNat hvalid
  simp only [String.utf8EncodeChar, hchar]
  rw [if_neg (by omega), if_neg (by omega), if_neg (by omega)]
  rw [@ofNat_eq_byte _ b (by omega), @ofNat_eq_byte _ b₁ (by omega), @ofNat_eq_byte _ b₂ (by omega),
    @ofNat_eq_byte _ b₃ (by omega)]

/-- The characters whose bytes follow those of `c` are those that `c` comes before. -/
theorem prepend_char {c : Char} {read cs : List Char} {bytes rest : List UInt8}
    (hc : String.utf8EncodeChar c = bytes)
    (h : ∃ tail, cs = (c :: read).reverse ++ tail ∧ rest = tail.flatMap String.utf8EncodeChar) :
    ∃ tail, cs = read.reverse ++ tail ∧ bytes ++ rest = tail.flatMap String.utf8EncodeChar := by
  obtain ⟨tail, rfl, rfl⟩ := h
  refine ⟨c :: tail, ?_, ?_⟩
  · rw [List.reverse_cons, List.append_assoc, List.singleton_append]
  · rw [List.flatMap_cons, hc]

/-- What is decoded are characters whose bytes follow each other. -/
theorem eq_flatMap_of_decodeFrom {index : Nat} {read cs : List Char} {bytes : List UInt8}
    (h : decodeFrom index read bytes = .ok cs) :
    ∃ tail, cs = read.reverse ++ tail ∧ bytes = tail.flatMap String.utf8EncodeChar := by
  fun_induction decodeFrom index read bytes with
  | case1 index read =>
    cases h
    exact ⟨[], (List.append_nil _).symm, rfl⟩
  | case3 index read b rest hb ih => exact prepend_char (encodeChar_one hb) (ih h)
  | case5 index read b hb b₁ rest h₁ ih => exact prepend_char (encodeChar_two hb h₁) (ih h)
  | case11 index read b hb b₁ b₂ rest h₁ h₂ ih =>
    have h₁ : secondOk b b₁ = true := by simpa using h₁
    exact prepend_char (encodeChar_three hb h₁ h₂) (ih h)
  | case21 index read b w hw₁ hw₂ hw₃ hb b₁ b₂ b₃ rest h₁ h₂ h₃ ih =>
    have h₁ : secondOk b b₁ = true := by simpa using h₁
    have h₂ : isContinuation b₂ = true := by simpa using h₂
    obtain ⟨hw, -⟩ | ⟨hw, -⟩ | ⟨hw, -⟩ | ⟨rfl, -⟩ := width?_bounds hb
    · exact absurd hw hw₁
    · exact absurd hw hw₂
    · exact absurd hw hw₃
    · exact prepend_char (encodeChar_four hb h₁ h₂ h₃) (ih h)
  | _ => contradiction

/-- **Bytes are read as a text exactly if they are the bytes of that text.** -/
theorem decode_eq_ok_iff {bytes : List UInt8} {s : String} :
    decode bytes = .ok s ↔ bytes = encode s := by
  constructor
  · intro h
    unfold decode at h
    split at h <;> rename_i hdecode
    · obtain ⟨tail, rfl, hbytes⟩ := eq_flatMap_of_decodeFrom hdecode
      cases h
      rw [encode_eq_flatMap, hbytes]
      simp
    · cases h
  · rintro rfl
    exact decode_encode s

end StreamGateway.Text.Utf8

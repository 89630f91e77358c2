import Shortlink.Text.Utf8.RoundTrip

/-!
# Well-formed bytes

Strict decoding takes the bytes of texts and no others: bytes that spell a text are the bytes of
this text. Again the proof goes by the number of bytes of a character.
-/

namespace Shortlink.Text.Utf8

/-- The character of a valid number has that number. -/
theorem val_ofNat {n : Nat} (valid : n.isValidChar) : (Char.ofNat n).val.toNat = n := by
  rw [Char.ofNat, dif_pos valid]
  rfl

/-- A byte comes back from its number. -/
theorem ofNat_eq {b : UInt8} {n : Nat} (h : n = b.toNat) : UInt8.ofNat n = b := by
  rw [h, UInt8.ofNat_toNat]

/-- The bounds of a byte behind the first one of a character. -/
theorem tail_bounds {b : UInt8} (h : isTail b = true) : 128 ≤ b.toNat ∧ b.toNat ≤ 191 := by
  simpa [isTail, UInt8.le_iff_toNat_le] using h

/-- The second byte is a byte behind the first one, within narrower bounds where the first byte asks
for them. -/
theorem second_bounds {b c : UInt8} (h : isSecond b c = true) :
    128 ≤ c.toNat ∧ c.toNat ≤ 191 ∧ (b.toNat = 224 → 160 ≤ c.toNat) ∧
      (b.toNat = 237 → c.toNat ≤ 159) ∧ (b.toNat = 240 → 144 ≤ c.toNat) ∧
      (b.toNat = 244 → c.toNat ≤ 143) := by
  simp only [isSecond, isTail, beq_iff_eq, ← UInt8.toNat_inj, UInt8.le_iff_toNat_le,
    UInt8.reduceToNat] at h
  split at h
  · simp at h; omega
  · split at h
    · simp at h; omega
    · split at h
      · simp at h; omega
      · split at h
        · simp at h; omega
        · simp at h; omega

/-- A byte below 128 is a character of its own. -/
theorem encodeChar_one {b : UInt8} (h : b.toNat < 128) :
    String.utf8EncodeChar (Char.ofNat b.toNat) = [b] := by
  have val : (Char.ofNat b.toNat).val.toNat = b.toNat := val_ofNat (.inl (by omega))
  simp only [String.utf8EncodeChar, val]
  rw [if_pos (by omega), ofNat_eq rfl]

/-- Two bytes that go together are those of their character. -/
theorem encodeChar_two {b c : UInt8} (low : 194 ≤ b.toNat) (high : b.toNat ≤ 223)
    (hc : isTail c = true) :
    String.utf8EncodeChar (Char.ofNat (b.toNat % 32 * 64 + tailBits c)) = [b, c] := by
  have := tail_bounds hc
  rw [tailBits]
  have val := val_ofNat (n := b.toNat % 32 * 64 + c.toNat % 64) (.inl (by omega))
  simp only [String.utf8EncodeChar, val]
  rw [if_neg (by omega), if_pos (by omega)]
  rw [ofNat_eq (b := b) (by omega), ofNat_eq (b := c) (by omega)]

/-- Three bytes that go together are those of their character. -/
theorem encodeChar_three {b c d : UInt8} (low : 224 ≤ b.toNat) (high : b.toNat ≤ 239)
    (hc : isSecond b c = true) (hd : isTail d = true) :
    String.utf8EncodeChar (Char.ofNat ((b.toNat % 16 * 64 + tailBits c) * 64 + tailBits d)) =
      [b, c, d] := by
  obtain ⟨_, _, overlong, surrogate, -, -⟩ := second_bounds hc
  have := tail_bounds hd
  rw [tailBits, tailBits]
  have valid : ((b.toNat % 16 * 64 + c.toNat % 64) * 64 + d.toNat % 64).isValidChar := by
    rw [Nat.isValidChar]
    omega
  have val := val_ofNat valid
  simp only [String.utf8EncodeChar, val]
  rw [if_neg (by omega), if_neg (by omega), if_pos (by omega)]
  rw [ofNat_eq (b := b) (by omega), ofNat_eq (b := c) (by omega), ofNat_eq (b := d) (by omega)]

/-- Four bytes that go together are those of their character. -/
theorem encodeChar_four {b c d e : UInt8} (low : 240 ≤ b.toNat) (high : b.toNat ≤ 244)
    (hc : isSecond b c = true) (hd : isTail d = true) (he : isTail e = true) :
    String.utf8EncodeChar
        (Char.ofNat (((b.toNat % 8 * 64 + tailBits c) * 64 + tailBits d) * 64 + tailBits e)) =
      [b, c, d, e] := by
  obtain ⟨_, _, -, -, overlong, large⟩ := second_bounds hc
  have := tail_bounds hd
  have := tail_bounds he
  rw [tailBits, tailBits, tailBits]
  have valid :
      (((b.toNat % 8 * 64 + c.toNat % 64) * 64 + d.toNat % 64) * 64 + e.toNat % 64).isValidChar := by
    rw [Nat.isValidChar]
    omega
  have val := val_ofNat valid
  simp only [String.utf8EncodeChar, val]
  rw [if_neg (by omega), if_neg (by omega), if_neg (by omega)]
  rw [ofNat_eq (b := b) (by omega), ofNat_eq (b := c) (by omega), ofNat_eq (b := d) (by omega),
    ofNat_eq (b := e) (by omega)]

/-- The bytes that a character is read from are those it is written with. -/
theorem encodeChar_of_lead {b : UInt8} {rest : List UInt8} {c : Char} {used : Nat}
    (h : lead b rest = (some c, used)) :
    ∃ bs rest', rest = bs ++ rest' ∧ bs.length = used ∧ String.utf8EncodeChar c = b :: bs := by
  unfold lead at h
  simp only [UInt8.lt_iff_toNat_lt, UInt8.le_iff_toNat_le, UInt8.reduceToNat, Bool.and_eq_true,
    decide_eq_true_eq] at h
  split at h
  · next one =>
    cases h
    exact ⟨[], rest, rfl, rfl, encodeChar_one one⟩
  · split at h
    · next two =>
      rcases rest with _ | ⟨c₁, rest⟩
      · cases h
      · simp only at h
        split at h
        · next tail =>
          cases h
          exact ⟨[c₁], rest, rfl, rfl, encodeChar_two two.1 two.2 tail⟩
        · cases h
    · split at h
      · next three =>
        rcases rest with _ | ⟨c₁, _ | ⟨c₂, rest⟩⟩
        · cases h
        · cases h
        · simp only at h
          split at h
          · next second =>
            split at h
            · next tail =>
              cases h
              exact ⟨[c₁, c₂], rest, rfl, rfl, encodeChar_three three.1 three.2 second tail⟩
            · cases h
          · cases h
      · split at h
        · next four =>
          rcases rest with _ | ⟨c₁, _ | ⟨c₂, _ | ⟨c₃, rest⟩⟩⟩
          · cases h
          · cases h
          · cases h
          · simp only at h
            split at h
            · next second =>
              split at h
              · next tail =>
                split at h
                · next tail' =>
                  cases h
                  exact ⟨[c₁, c₂, c₃], rest, rfl, rfl,
                    encodeChar_four four.1 four.2 second tail tail'⟩
                · cases h
              · cases h
            · cases h
        · cases h

/-- Bytes that spell a text are the bytes of it. -/
theorem encode_of_decode? (bytes : List UInt8) {cs : List Char} (h : decode? bytes = some cs) :
    encode cs = bytes := by
  -- by the number of bytes, since a character may take several
  induction size : bytes.length using Nat.strongRecOn generalizing bytes cs with
  | ind n ih =>
    cases bytes with
    | nil =>
      cases h
      rfl
    | cons b rest =>
      rw [decode?, symbols, symbolsFrom, List.mapM_cons] at h
      cases symbol : lead b rest with
      | mk c? used =>
        rw [symbol] at h
        cases c? with
        | none => cases h
        | some c =>
          obtain ⟨bs, rest', rfl, rfl, written⟩ := encodeChar_of_lead symbol
          rw [symbolsFrom_append] at h
          cases spelled : decode? rest' with
          | none =>
            rw [decode?, symbols] at spelled
            simp [spelled] at h
          | some cs' =>
            have shorter : rest'.length < n := by
              simp at size
              omega
            have ends := ih _ shorter rest' spelled rfl
            rw [decode?, symbols] at spelled
            simp [spelled] at h
            subst h
            rw [encode, List.flatMap_cons, ← encode, written, ends, List.cons_append]

/-- Bytes are decoded into the text that has these bytes. -/
theorem decode?_eq_some_iff {bytes : List UInt8} {cs : List Char} :
    decode? bytes = some cs ↔ encode cs = bytes :=
  ⟨encode_of_decode? bytes, fun h => h ▸ decode?_encode cs⟩

end Shortlink.Text.Utf8

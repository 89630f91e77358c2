import Shortlink.Text.Utf8

/-!
# Reading back what was written

The bytes of a text spell that text, for strict and for lenient decoding. The proof goes by the
number of bytes of a character: `lead_one` to `lead_four` say what the bytes of such a character are
read as, and `lead_encodeChar` that this is the character they were written for.
-/

namespace Shortlink.Text.Utf8

/-- A number below 256 is the value of its byte. -/
theorem toNat_ofNat {n : Nat} (h : n < 256) : (UInt8.ofNat n).toNat = n := by
  simp [Nat.mod_eq_of_lt h]

/-- A byte that is written behind the first one of a character. -/
theorem isTail_ofNat {n : Nat} (h : n < 64) : isTail (UInt8.ofNat (n + 128)) = true := by
  have : (UInt8.ofNat (n + 128)).toNat = n + 128 := toNat_ofNat (by omega)
  simp only [isTail, Bool.and_eq_true, decide_eq_true_eq, UInt8.le_iff_toNat_le, this]
  constructor
  · simp
  · simp
    omega

/-- Its value bits are those that were written. -/
theorem tailBits_ofNat {n : Nat} (h : n < 64) : tailBits (UInt8.ofNat (n + 128)) = n := by
  rw [tailBits, toNat_ofNat (by omega)]
  omega

/-- A character of one byte. -/
theorem lead_one {b : UInt8} {rest : List UInt8} (h : b.toNat < 128) :
    lead b rest = (some (Char.ofNat b.toNat), 0) := by
  unfold lead
  rw [if_pos (UInt8.lt_iff_toNat_lt.2 h)]

/-- A character of two bytes. -/
theorem lead_two {b c : UInt8} {rest : List UInt8} (low : 194 ≤ b.toNat) (high : b.toNat ≤ 223)
    (hc : isTail c = true) :
    lead b (c :: rest) = (some (Char.ofNat (b.toNat % 32 * 64 + tailBits c)), 1) := by
  unfold lead
  simp only [UInt8.lt_iff_toNat_lt, UInt8.le_iff_toNat_le, UInt8.reduceToNat]
  rw [if_neg (by omega), if_pos (by simp; omega), if_pos hc]

/-- A character of three bytes. -/
theorem lead_three {b c d : UInt8} {rest : List UInt8} (low : 224 ≤ b.toNat)
    (high : b.toNat ≤ 239) (hc : isSecond b c = true) (hd : isTail d = true) :
    lead b (c :: d :: rest) =
      (some (Char.ofNat ((b.toNat % 16 * 64 + tailBits c) * 64 + tailBits d)), 2) := by
  unfold lead
  simp only [UInt8.lt_iff_toNat_lt, UInt8.le_iff_toNat_le, UInt8.reduceToNat]
  rw [if_neg (by omega), if_neg (by simp; omega), if_pos (by simp; omega), if_pos hc, if_pos hd]

/-- A character of four bytes. -/
theorem lead_four {b c d e : UInt8} {rest : List UInt8} (low : 240 ≤ b.toNat)
    (high : b.toNat ≤ 244) (hc : isSecond b c = true) (hd : isTail d = true)
    (he : isTail e = true) :
    lead b (c :: d :: e :: rest) =
      (some (Char.ofNat
        (((b.toNat % 8 * 64 + tailBits c) * 64 + tailBits d) * 64 + tailBits e)), 3) := by
  unfold lead
  simp only [UInt8.lt_iff_toNat_lt, UInt8.le_iff_toNat_le, UInt8.reduceToNat]
  rw [if_neg (by omega), if_neg (by simp; omega), if_neg (by simp; omega),
    if_pos (by simp; omega), if_pos hc, if_pos hd, if_pos he]

/-- The second bytes that characters are written with are admissible. -/
theorem isSecond_ofNat {first second : Nat} (hf : first < 256) (hs : second < 64)
    (notOverlong3 : first = 224 → 32 ≤ second) (notSurrogate : first = 237 → second < 32)
    (notOverlong4 : first = 240 → 16 ≤ second) (notTooLarge : first = 244 → second < 16) :
    isSecond (UInt8.ofNat first) (UInt8.ofNat (second + 128)) = true := by
  have e1 : (UInt8.ofNat first).toNat = first := toNat_ofNat hf
  have e2 : (UInt8.ofNat (second + 128)).toNat = second + 128 := toNat_ofNat (by omega)
  simp only [isSecond, beq_iff_eq, ← UInt8.toNat_inj, UInt8.le_iff_toNat_le, UInt8.reduceToNat, e1,
    e2, isTail]
  split
  · simp; omega
  · split
    · simp; omega
    · split
      · simp; omega
      · split
        · simp; omega
        · simp; omega

/-- A character is read from the bytes that it is written with. -/
theorem lead_encodeChar (c : Char) (rest : List UInt8) :
    ∃ b bs, String.utf8EncodeChar c = b :: bs ∧ lead b (bs ++ rest) = (some c, bs.length) := by
  have valid : c.val.toNat < 0xD800 ∨ 0xDFFF < c.val.toNat ∧ c.val.toNat < 0x110000 := by
    simpa [UInt32.isValidChar, Nat.isValidChar] using c.valid
  have same {n : Nat} (h : n = c.val.toNat) : Char.ofNat n = c := by
    rw [h]; exact Char.ofNat_toNat c
  simp only [String.utf8EncodeChar]
  split
  · next h =>
    refine ⟨_, _, rfl, ?_⟩
    have first : (UInt8.ofNat c.val.toNat).toNat = c.val.toNat := toNat_ofNat (by omega)
    rw [lead_one (by omega), same first]
    rfl
  · split
    · refine ⟨_, _, rfl, ?_⟩
      have first : (UInt8.ofNat (c.val.toNat / 64 % 32 + 192)).toNat =
          c.val.toNat / 64 % 32 + 192 := toNat_ofNat (by omega)
      simp only [List.cons_append, List.nil_append]
      rw [lead_two (by omega) (by omega) (isTail_ofNat (by omega)), tailBits_ofNat (by omega),
        first, same (by omega)]
      rfl
    · split
      · refine ⟨_, _, rfl, ?_⟩
        have first : (UInt8.ofNat (c.val.toNat / 4096 % 16 + 224)).toNat =
            c.val.toNat / 4096 % 16 + 224 := toNat_ofNat (by omega)
        simp only [List.cons_append, List.nil_append]
        rw [lead_three (by omega) (by omega)
          (isSecond_ofNat (by omega) (by omega) (by omega) (by omega) (by omega) (by omega))
          (isTail_ofNat (by omega)), tailBits_ofNat (by omega), tailBits_ofNat (by omega), first,
          same (by omega)]
        rfl
      · refine ⟨_, _, rfl, ?_⟩
        have first : (UInt8.ofNat (c.val.toNat / 262144 % 8 + 240)).toNat =
            c.val.toNat / 262144 % 8 + 240 := toNat_ofNat (by omega)
        simp only [List.cons_append, List.nil_append]
        rw [lead_four (by omega) (by omega)
          (isSecond_ofNat (by omega) (by omega) (by omega) (by omega) (by omega) (by omega))
          (isTail_ofNat (by omega)) (isTail_ofNat (by omega)), tailBits_ofNat (by omega),
          tailBits_ofNat (by omega), tailBits_ofNat (by omega), first, same (by omega)]
        rfl

/-- Bytes that are taken already do not matter. -/
theorem symbolsFrom_append (skipped rest : List UInt8) :
    symbolsFrom skipped.length (skipped ++ rest) = symbolsFrom 0 rest := by
  induction skipped with
  | nil => rfl
  | cons b skipped ih => simpa [symbolsFrom] using ih

/-- The symbols of the bytes of a text are its characters. -/
theorem symbols_encode (cs : List Char) : symbols (encode cs) = cs.map some := by
  induction cs with
  | nil => rfl
  | cons c cs ih =>
    obtain ⟨b, bs, hc, hl⟩ := lead_encodeChar c (encode cs)
    rw [symbols, encode, List.flatMap_cons, ← encode, hc, List.cons_append, symbolsFrom, hl,
      symbolsFrom_append, ← symbols, ih, List.map_cons]

/-- The bytes of a text spell the text. -/
theorem decode?_encode (cs : List Char) : decode? (encode cs) = some cs := by
  rw [decode?, symbols_encode, List.mapM_map]
  induction cs with
  | nil => rfl
  | cons c cs ih => simp_all [List.mapM_cons]

/-- Leniency changes nothing about well-formed bytes. -/
theorem decodeLossy_encode (cs : List Char) : decodeLossy (encode cs) = cs := by
  rw [decodeLossy, symbols_encode, List.map_map]
  exact List.map_id cs

/-- Nothing in the bytes of a text is ill formed. -/
theorem gaps_encode (cs : List Char) : gaps (encode cs) = [] := by
  rw [gaps, symbols_encode]
  generalize 0 = start
  induction cs generalizing start with
  | nil => rfl
  | cons c cs ih => exact ih _

end Shortlink.Text.Utf8

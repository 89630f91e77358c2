import Mathlib.Data.Nat.Digits.Defs
import Shortlink.Proofs.Json.Strings

/-!
# Numbers that are read back

A whole number of 64 bits that is written as JSON is read as one token with this number, unless what
stands behind it goes on with the number. Larger numbers, and fractions, are left out here: they are
floating point numbers when they are read.
-/

namespace Shortlink.Json

/-! ## Digits -/

/-- Digits as a number is written with them: all of them decimal, and a zero in front only alone. -/
structure IsWritten (digits : List Char) : Prop where
  digital : ∀ c ∈ digits, c.isDigit = true
  leading : digits = ['0'] ∨ ∃ c rest, digits = c :: rest ∧ c ≠ '0'

/-- A number that is not zero does not begin with the digit zero. -/
lemma head_toDigits {n : Nat} (h : n ≠ 0) : ∃ c rest, Nat.toDigits 10 n = c :: rest ∧ c ≠ '0' := by
  induction n using Nat.strongRecOn with
  | ind n ih =>
    by_cases small : n < 10
    · exact ⟨n.digitChar, [], Nat.toDigits_of_lt_base small, by simp [h]⟩
    · obtain ⟨c, rest, front, nonzero⟩ := ih (n / 10) (by omega) (by omega)
      rw [Nat.toDigits_of_base_le (by omega) (by omega), front]
      exact ⟨c, _, rfl, nonzero⟩

/-- A natural number has the digits that a number is written with. -/
lemma isWritten_toDigits (n : Nat) : IsWritten (Nat.toDigits 10 n) where
  digital := fun _ => Nat.isDigit_of_mem_toDigits (by omega) (by omega)
  leading := by
    by_cases zero : n = 0
    · exact .inl (by rw [zero, Nat.toDigits_zero])
    · exact .inr (head_toDigits zero)

/-- The first digit. -/
lemma IsWritten.exists_cons {digits : List Char} (h : IsWritten digits) :
    ∃ c rest, digits = c :: rest ∧ c.isDigit = true := by
  obtain rfl | ⟨c, rest, rfl, -⟩ := h.leading
  · exact ⟨'0', [], rfl, rfl⟩
  · exact ⟨c, rest, rfl, h.digital c List.mem_cons_self⟩

/-- Reading on never makes a number smaller. -/
lemma le_ofDigitChars (n : Nat) (cs : List Char) : n ≤ Nat.ofDigitChars 10 cs n := by
  induction cs generalizing n with
  | nil => exact Nat.le_refl n
  | cons c cs ih =>
    rw [Nat.ofDigitChars_cons]
    exact Nat.le_trans (by omega) (ih _)

/-- Digits that stay below 64 bits are all taken into the number. -/
lemma absorb_eq {n : Nat} {cs : List Char} (small : Nat.ofDigitChars 10 cs n < 2 ^ 64) :
    Numeral.absorb n cs = (Nat.ofDigitChars 10 cs n, []) := by
  induction cs generalizing n with
  | nil => rfl
  | cons c cs ih =>
    rw [Nat.ofDigitChars_cons] at small ⊢
    have next := Nat.lt_of_le_of_lt (le_ofDigitChars _ cs) small
    rw [Numeral.absorb, if_pos (show _ < Nat.pow 2 64 from next)]
    exact ih small

/-! ## Numerals -/

/-- A text does not go on with a number that stands in front of it. -/
def EndsNumber (rest : List Char) : Prop :=
  ∀ c ∈ rest.head?, c.isDigit = false ∧ c ≠ '.' ∧ c ≠ 'e' ∧ c ≠ 'E'

/-- No digit comes behind a number that ends. -/
lemma EndsNumber.stop {rest : List Char} (h : EndsNumber rest) :
    ∀ c ∈ rest.head?, c.isDigit = false := fun c mem => (h c mem).1

/-- No point comes behind a number that ends. -/
lemma EndsNumber.noPoint {rest : List Char} (h : EndsNumber rest) : ∀ c ∈ rest.head?, c ≠ '.' :=
  fun c mem => (h c mem).2.1

/-- No exponent comes behind a number that ends. -/
lemma EndsNumber.noMark {rest : List Char} (h : EndsNumber rest) :
    ∀ c ∈ rest.head?, c ≠ 'e' ∧ c ≠ 'E' := fun c mem => (h c mem).2.2

/-- The end of the text ends a number. -/
lemma endsNumber_nil : EndsNumber [] := fun _ h => by cases h

/-- A character that does not belong to a number ends it. -/
lemma endsNumber_cons {c : Char} {rest : List Char}
    (h : c.isDigit = false ∧ c ≠ '.' ∧ c ≠ 'e' ∧ c ≠ 'E') : EndsNumber (c :: rest) := by
  rintro _ ⟨⟩
  exact h

/-- A text is split behind its digits if none comes behind them. -/
lemma span_digits {digits rest : List Char} (digital : ∀ c ∈ digits, c.isDigit = true)
    (stop : ∀ c ∈ rest.head?, c.isDigit = false) :
    (digits ++ rest).takeWhile Char.isDigit = digits ∧
      (digits ++ rest).dropWhile Char.isDigit = rest := by
  rw [List.takeWhile_append_of_pos digital, List.dropWhile_append_of_pos digital]
  cases rest with
  | nil => exact ⟨List.append_nil _, rfl⟩
  | cons c rest =>
    have other := stop c rfl
    rw [List.takeWhile_cons_of_neg (by simp [other]), List.dropWhile_cons_of_neg (by simp [other])]
    exact ⟨List.append_nil _, rfl⟩

/-- Digits as a number is written with them are scanned as its whole part. -/
lemma scanWhole_append {digits rest : List Char} (written : IsWritten digits)
    (stop : ∀ c ∈ rest.head?, c.isDigit = false) (offset : Nat) :
    Numeral.scanWhole offset (digits ++ rest) = .ok (digits, rest) := by
  obtain rfl | ⟨c, digits, rfl, nonzero⟩ := written.leading
  · cases rest with
    | nil => rfl
    | cons c rest =>
      have other := stop c rfl
      rw [List.singleton_append, Numeral.scanWhole]
      simp [other]
  · obtain ⟨taken, left⟩ := span_digits (fun d mem => written.digital d (.tail c mem)) stop
    have digit := written.digital c List.mem_cons_self
    rw [List.cons_append, Numeral.scanWhole]
    · rw [if_pos digit, taken, left]
    · exact nonzero

/-- Without a point there is no fraction. -/
lemma scanFraction_of_ends {rest : List Char} (noPoint : ∀ c ∈ rest.head?, c ≠ '.')
    (offset : Nat) : Numeral.scanFraction offset rest = .ok ([], rest) := by
  rw [Numeral.scanFraction.eq_def]
  split
  · exact (noPoint '.' rfl rfl).elim
  · rfl

/-- Without its mark there is no exponent. -/
lemma scanExponent_of_ends {rest : List Char} (noMark : ∀ c ∈ rest.head?, c ≠ 'e' ∧ c ≠ 'E')
    (offset : Nat) : Numeral.scanExponent offset rest = .ok (none, rest) := by
  cases rest with
  | nil => rfl
  | cons c rest =>
    obtain ⟨lower, upper⟩ := noMark c rfl
    rw [Numeral.scanExponent.eq_def]
    exact if_neg (by simp [lower, upper])

/-- Digits behind which a number ends are scanned as a whole number. -/
lemma scanUnsigned_append {digits rest : List Char} (written : IsWritten digits)
    (ends : EndsNumber rest) (offset : Nat) (negative : Bool) :
    Numeral.scanUnsigned offset negative (digits ++ rest) =
      .ok (⟨negative, digits, [], none⟩, rest) := by
  rw [Numeral.scanUnsigned, scanWhole_append written ends.stop]
  change (Numeral.scanFraction _ rest >>= _) = _
  rw [scanFraction_of_ends ends.noPoint]
  change (Numeral.scanExponent _ rest >>= _) = _
  rw [scanExponent_of_ends ends.noMark]
  rfl

/-! ## Numbers -/

/-- A whole number of 64 bits, with or without sign. -/
def Fits (i : Int) : Prop := -2 ^ 63 ≤ i ∧ i < 2 ^ 64

/-- The numeral that a whole number is written as. -/
def numeralOf (i : Int) : Numeral := ⟨i < 0, Nat.toDigits 10 i.natAbs, [], none⟩

/-- A whole number is scanned as the numeral that it is written as. -/
lemma scan_writeInt (i : Int) {rest : List Char} (ends : EndsNumber rest) :
    Numeral.scan (writeInt i ++ rest) = .ok (numeralOf i, rest) := by
  have written := isWritten_toDigits i.natAbs
  rw [writeInt, numeralOf]
  by_cases negative : i < 0
  · rw [if_pos negative, decide_eq_true negative]
    exact scanUnsigned_append written ends 1 true
  · rw [if_neg negative, decide_eq_false negative, Numeral.scan.eq_def]
    split
    · next signed =>
      -- a digit comes first, and no minus sign is one
      obtain ⟨c, digits, first, digit⟩ := written.exists_cons
      rw [first] at signed
      cases signed
      contradiction
    · exact scanUnsigned_append written ends 0 false

/-- The numeral of a number of 64 bits has that number as its value. -/
lemma value_numeralOf {i : Int} (h : Fits i) (length : Nat) :
    (numeralOf i).value length = .ok (.integer i) := by
  obtain ⟨low, high⟩ := h
  have read : Numeral.absorb 0 (Nat.toDigits 10 i.natAbs) = (i.natAbs, []) := by
    rw [absorb_eq, Nat.ofDigitChars_ten_toDigits]
    rw [Nat.ofDigitChars_ten_toDigits]
    omega
  rw [Numeral.value, numeralOf]
  simp only [read]
  rw [if_pos ⟨rfl, rfl, rfl⟩]
  by_cases negative : i < 0
  · have bounds : 0 < i.natAbs ∧ i.natAbs ≤ Nat.pow 2 63 :=
      ⟨by omega, show i.natAbs ≤ 2 ^ 63 by omega⟩
    rw [if_neg (by simp [negative]), if_pos bounds, show -(i.natAbs : Int) = i by omega]
  · rw [if_pos (by simp [negative]), show (i.natAbs : Int) = i by omega]

/-! ## Tokens -/

/-- What a number begins with. -/
def OpensNumber (c : Char) : Prop := c = '-' ∨ c.isDigit = true

/-- A number token is scanned where a number may begin. -/
lemma scanToken_of_opensNumber {c : Char} (h : OpensNumber c) (rest : List Char) :
    scanToken c rest = scanNumber (c :: rest) := by
  unfold scanToken
  split
  case h_11 => exact if_pos h
  all_goals obtain bad | bad := h <;> contradiction

/-- A whole number is written with what a number begins with in front. -/
lemma writeInt_eq_cons (i : Int) : ∃ c front, writeInt i = c :: front ∧ OpensNumber c := by
  rw [writeInt]
  split
  · exact ⟨'-', _, rfl, .inl rfl⟩
  · obtain ⟨c, rest, first, digit⟩ := (isWritten_toDigits i.natAbs).exists_cons
    exact ⟨c, rest, first, .inr digit⟩

/-- What a number begins with is no blank. -/
lemma OpensNumber.visible {c : Char} (h : OpensNumber c) : isSpace c = false := by
  obtain rfl | digit := h
  · rfl
  · simp only [isSpace, Bool.or_eq_false_iff, beq_eq_false_iff_ne]
    refine ⟨⟨⟨?_, ?_⟩, ?_⟩, ?_⟩ <;> (rintro rfl; contradiction)

/-- A whole number that was written is one token with this number. -/
lemma tokens_writeInt {i : Int} (h : Fits i) {rest : List Char} (ends : EndsNumber rest) :
    tokens (writeInt i ++ rest) = .number (.ok (.integer i)) none :: tokens rest := by
  obtain ⟨c, front, written, opens⟩ := writeInt_eq_cons i
  have scanned := scan_writeInt i ends
  rw [written] at scanned ⊢
  apply tokens_cons_of_scan front opens.visible
  rw [scanToken_of_opensNumber opens, scanNumber]
  rw [List.cons_append] at scanned
  rw [scanned]
  show (Token.number ((numeralOf i).value _) none, some rest) = _
  rw [value_numeralOf h]

end Shortlink.Json

import Mathlib.Data.Nat.Digits.Defs
import Mathlib.Tactic.Lemma
import Shortlink.Settings

/-!
# Numbers in variables

A variable holds a number if, apart from blanks around it, it is a decimal numeral: one or more
ASCII digits, with a plus sign in front or none, that stand for a number of 64 bits.
-/

namespace Shortlink.Layer

/-- Decimal digits, the most significant one first, and the number they stand for. -/
def IsDecimal (digits : List Char) (n : Nat) : Prop :=
  digits ≠ [] ∧ (∀ c ∈ digits, '0' ≤ c ∧ c ≤ '9') ∧
    Nat.ofDigits 10 (digits.reverse.map fun c => c.toNat - '0'.toNat) = n

/-- Characters that stand for a number of 64 bits. -/
def IsNumeral (cs : List Char) (n : UInt64) : Prop :=
  ∃ digits, (cs = digits ∨ cs = '+' :: digits) ∧ IsDecimal digits n.toNat

/-- A text with a numeral in it and blanks around it. -/
def IsNumber (text : String) (n : UInt64) : Prop :=
  ∃ front numeral back, text.toList = front ++ (numeral ++ back) ∧
    (∀ c ∈ front, Text.isBlank c = true) ∧ (∀ c ∈ back, Text.isBlank c = true) ∧
    IsNumeral numeral n

/-- Reading digits from the left gives the number they stand for. -/
lemma ofDigitChars_eq_ofDigits (cs : List Char) :
    Nat.ofDigitChars 10 cs 0 = Nat.ofDigits 10 (cs.reverse.map fun c => c.toNat - '0'.toNat) := by
  rw [Nat.ofDigitChars_eq_foldl, Nat.ofDigits_eq_foldr, List.foldr_map, List.foldr_reverse]
  congr 1
  funext n c
  exact Nat.add_comm _ _

/-- Digits are the characters from 0 to 9. -/
lemma all_isDigit_iff {cs : List Char} :
    cs.all Char.isDigit = true ↔ ∀ c ∈ cs, '0' ≤ c ∧ c ≤ '9' := by
  simp [Char.isDigit, Char.le_def]

/-- What is read behind the plus sign. -/
lemma isDecimal_iff {digits : List Char} {n : UInt64} :
    IsDecimal digits n.toNat ↔
      (!digits.isEmpty && digits.all Char.isDigit &&
        Nat.ofDigitChars 10 digits 0 < Nat.pow 2 64) = true ∧
      UInt64.ofNat (Nat.ofDigitChars 10 digits 0) = n := by
  rw [IsDecimal, ← ofDigitChars_eq_ofDigits, ← all_isDigit_iff]
  simp only [Bool.and_eq_true, Bool.not_eq_true', List.isEmpty_eq_false_iff, decide_eq_true_eq]
  constructor
  · rintro ⟨some, digital, value⟩
    rw [value]
    exact ⟨⟨⟨some, digital⟩, n.toNat_lt⟩, UInt64.ofNat_toNat⟩
  · rintro ⟨⟨⟨some, digital⟩, small⟩, rfl⟩
    exact ⟨some, digital, (UInt64.toNat_ofNat_of_lt' small).symm⟩

/-- A plus sign is no digit. -/
lemma not_isDecimal_plus {rest : List Char} {n : Nat} : ¬ IsDecimal ('+' :: rest) n :=
  fun ⟨_, digital, _⟩ => absurd (digital '+' List.mem_cons_self).1 (by decide)

/-- A number is read off characters exactly if they stand for it. -/
lemma readNumber_eq_some_iff {cs : List Char} {n : UInt64} :
    readNumber cs = some n ↔ IsNumeral cs n := by
  simp only [readNumber, Option.ite_none_right_eq_some, Option.some_inj]
  rw [← isDecimal_iff]
  split
  case h_1 rest =>
    constructor
    · exact fun h => ⟨rest, .inr rfl, h⟩
    · rintro ⟨digits, rfl | plus, h⟩
      · exact (not_isDecimal_plus h).elim
      · rwa [(List.cons.inj plus).2]
  case h_2 unsigned =>
    constructor
    · exact fun h => ⟨cs, .inl rfl, h⟩
    · rintro ⟨digits, rfl | plus, h⟩
      · exact h
      · exact (unsigned digits plus).elim

/-- There is no blank in a numeral. -/
lemma IsNumeral.isStripped {cs : List Char} {n : UInt64} (h : IsNumeral cs n) :
    Text.IsStripped cs := by
  obtain ⟨digits, signed, -, digital, -⟩ := h
  have visible : ∀ c ∈ digits, Text.isBlank c = false := fun c mem =>
    Text.isBlank_of_isDigit (List.all_eq_true.1 (all_isDigit_iff.2 digital) c mem)
  apply Text.isStripped_of_visible
  obtain rfl | rfl := signed
  · exact visible
  · exact List.forall_mem_cons.2 ⟨rfl, visible⟩

/-- Blanks around a numeral do not matter. -/
lemma readNumber_strip_iff {text : String} {n : UInt64} :
    readNumber (Text.strip text.toList) = some n ↔ IsNumber text n := by
  rw [readNumber_eq_some_iff]
  constructor
  · intro h
    obtain ⟨front, back, blankFront, blankBack, split⟩ := Text.exists_eq_append_strip text.toList
    exact ⟨front, _, back, split, blankFront, blankBack, h⟩
  · rintro ⟨front, numeral, back, split, blankFront, blankBack, h⟩
    rwa [split, Text.strip_append blankFront blankBack, Text.strip_eq_self h.isStripped]

end Shortlink.Layer

import Shortlink.Proofs.Text.Numbers
import Shortlink.Text.Quoted

/-!
# Line feeds in a text

How many line feeds a text has, and which texts have none: numbers, however they are written, and
everything that is quoted.
-/

namespace Shortlink.Text

/-- How many line feeds a text has. -/
def breaks (s : String) : Nat := s.toList.count '\n'

/-- A text has no line feed. -/
def Unbroken (s : String) : Prop := '\n' ∉ s.toList

instance (s : String) : Decidable (Unbroken s) := inferInstanceAs (Decidable ('\n' ∉ s.toList))

/-- A text has no line feed exactly if it has none to count. -/
lemma breaks_eq_zero_iff {s : String} : breaks s = 0 ↔ Unbroken s := List.count_eq_zero

/-- The line feeds of two texts add up. -/
lemma breaks_append (s t : String) : breaks (s ++ t) = breaks s + breaks t := by
  rw [breaks, String.toList_append, List.count_append, breaks, breaks]

/-- Two texts together have no line feed if neither has one. -/
@[simp] lemma unbroken_append {s t : String} : Unbroken (s ++ t) ↔ Unbroken s ∧ Unbroken t := by
  rw [Unbroken, String.toList_append, List.mem_append, not_or, Unbroken, Unbroken]

/-- Whether a text has a line feed is seen in its characters. -/
@[simp] lemma unbroken_ofList {cs : List Char} : Unbroken (String.ofList cs) ↔ '\n' ∉ cs := by
  rw [Unbroken, String.toList_ofList]

/-- Texts without line feeds have none when they are joined. -/
lemma unbroken_join {ss : List String} (h : ∀ s ∈ ss, Unbroken s) : Unbroken (String.join ss) := by
  rw [Unbroken, String.toList_join]
  intro mem
  obtain ⟨s, hs, own⟩ := List.mem_flatMap.1 mem
  exact h s hs own

/-! ## Numbers -/

/-- A digit is no line feed. -/
lemma digitChar_ne (n : Nat) : Nat.digitChar n ≠ '\n' := by
  by_cases small : n < 16
  · have all : ∀ m ∈ List.range 16, Nat.digitChar m ≠ '\n' := by decide
    exact all n (List.mem_range.2 small)
  · unfold Nat.digitChar
    simp [show ∀ m < 16, n ≠ m from fun m hm => by omega]

/-- A number has no line feed among its digits, in whatever base. -/
lemma not_mem_toDigits {b : Nat} (hb : 1 < b) (n : Nat) : '\n' ∉ Nat.toDigits b n := by
  induction n using Nat.strongRecOn with
  | ind n ih =>
    rw [Nat.toDigits_eq_if hb]
    split
    · exact fun mem => digitChar_ne n (List.mem_singleton.1 mem).symm
    · next large =>
      have less : n / b < n := Nat.div_lt_self (by omega) hb
      simp [ih _ less, (digitChar_ne (n % b)).symm]

/-- A natural number is written on one line. -/
lemma unbroken_nat (n : Nat) : Unbroken (toString n) := by
  rw [Nat.toString_eq_repr, Nat.repr_eq_ofList_toDigits, unbroken_ofList]
  exact not_mem_toDigits (by decide) n

/-- A whole number is written on one line. -/
lemma unbroken_int (i : Int) : Unbroken (toString i) := by
  cases i with
  | ofNat n => exact unbroken_nat n
  | negSucc n => exact unbroken_append.2 ⟨by decide, unbroken_nat (n + 1)⟩

end Shortlink.Text

namespace Shortlink.Decimal.Style

open Text

/-- A float is written on one line. -/
lemma unbroken_text {s : Style} (h : Unbroken s.plus) (x : Binary64) : Unbroken (s.text x) := by
  have covers : s.Covers (· ≠ '\n') := by
    refine ⟨?_, by decide, by decide, by decide, fun c mem same => h (same ▸ mem)⟩
    rintro _ digit rfl
    contradiction
  exact fun mem => covers.text x '\n' mem rfl

end Shortlink.Decimal.Style

namespace Shortlink.Text

/-- A character is quoted on one line. -/
lemma unbroken_quoteChar (c : Char) : Unbroken (quoteChar c) := by
  unfold quoteChar
  split
  case h_7 lf _ _ _ =>
    split
    · simp only [unbroken_append, Hex.text, unbroken_ofList]
      exact ⟨⟨by decide, not_mem_toDigits (by decide) _⟩, by decide⟩
    · rw [Unbroken, Char.toString_eq_singleton, String.toList_singleton, List.mem_singleton]
      exact Ne.symm lf
  all_goals decide

/-- Whatever is quoted stays on one line. -/
lemma unbroken_quoted (s : String) : Unbroken (quoted s) := by
  simp only [quoted, unbroken_append]
  refine ⟨⟨by decide, unbroken_join fun piece mem => ?_⟩, by decide⟩
  obtain ⟨c, -, rfl⟩ := List.mem_map.1 mem
  exact unbroken_quoteChar c

end Shortlink.Text

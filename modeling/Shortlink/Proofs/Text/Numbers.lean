import Mathlib.Tactic.Lemma
import Shortlink.Decimal.Style

/-!
# The characters of numbers

A number is written with digits, a point, an `e` for its power of ten, a minus sign and what its
style has for a plus sign. So every character of its text has a property that these have.
-/

namespace Shortlink.Decimal.Style

/-- The characters that a style writes numbers with have a property. -/
structure Covers (s : Style) (P : Char → Prop) : Prop where
  digit : ∀ c, c.isDigit = true → P c
  point : P '.'
  power : P 'e'
  minus : P '-'
  plus : ∀ c ∈ s.plus.toList, P c

namespace Covers

variable {s : Style} {P : Char → Prop} (h : s.Covers P)

include h

/-- The property holds of the digits of a natural number. -/
lemma toDigits (n : Nat) : ∀ c ∈ Nat.toDigits 10 n, P c :=
  fun c mem => h.digit c (Nat.isDigit_of_mem_toDigits (by omega) (by omega) mem)

/-- The property holds of a natural number as it is written. -/
lemma nat (n : Nat) : ∀ c ∈ (toString n).toList, P c := by
  rw [Nat.toString_eq_repr, Nat.repr_eq_ofList_toDigits, String.toList_ofList]
  exact h.toDigits n

/-- The property holds of zeros that fill up. -/
lemma zeros (n : Nat) : ∀ c ∈ List.replicate n '0', P c := by
  intro c mem
  rw [List.eq_of_mem_replicate mem]
  exact h.digit '0' rfl

/-- The property holds of a float that is written without an exponent. -/
lemma positional (d : Scientific) : ∀ c ∈ (positional d).toList, P c := by
  have digits := h.toDigits d.digits
  rw [Style.positional]
  split
  · simp only [String.toList_append, String.toList_ofList, List.forall_mem_append]
    exact ⟨by simpa using ⟨h.digit '0' rfl, h.point⟩, h.zeros _, digits⟩
  · simp only [String.toList_append, String.toList_ofList, List.forall_mem_append]
    refine ⟨⟨⟨fun c mem => digits c (List.mem_of_mem_take mem), h.zeros _⟩, by simpa using h.point⟩,
      ?_⟩
    split
    · simpa using h.digit '0' rfl
    · rw [String.toList_ofList]
      exact fun c mem => digits c (List.mem_of_mem_drop mem)

/-- The property holds of a float that is written with an exponent. -/
lemma scientific (d : Scientific) : ∀ c ∈ (s.scientific d).toList, P c := by
  have digits := h.toDigits d.digits
  rw [Style.scientific]
  simp only [String.toList_append, String.toList_ofList, List.forall_mem_append]
  refine ⟨⟨⟨⟨fun c mem => digits c (List.mem_of_mem_take mem), ?_⟩, by simpa using h.power⟩, ?_⟩,
    h.nat _⟩
  · split
    · simp
    · simp only [String.toList_append, String.toList_ofList, List.forall_mem_append]
      exact ⟨by simpa using h.point, fun c mem => digits c (List.mem_of_mem_drop mem)⟩
  · split
    · simpa using h.minus
    · exact h.plus

/-- The property holds of a float in either notation. -/
lemma text (x : Binary64) : ∀ c ∈ (s.text x).toList, P c := by
  rw [Style.text]
  simp only [String.toList_append, List.forall_mem_append]
  constructor
  · split
    · simpa using h.minus
    · simp
  · split
    · exact h.positional _
    · exact h.scientific _

end Covers

end Shortlink.Decimal.Style

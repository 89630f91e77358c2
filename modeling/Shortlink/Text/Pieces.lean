/-!
# Pieces of a text

A text cut at the characters of a class, which are themselves dropped. There is one piece more than
such characters, and no piece holds one.
-/

namespace Shortlink.Text

/-- The pieces of a text between the characters of a class. -/
def pieces (p : Char → Bool) : List Char → List (List Char)
  | [] => [[]]
  | c :: rest => if p c then [] :: pieces p rest else (pieces p rest).modifyHead (c :: ·)

variable {p : Char → Bool}

/-- There is always a piece. -/
theorem pieces_ne_nil (cs : List Char) : pieces p cs ≠ [] := by
  induction cs with
  | nil => simp [pieces]
  | cons c rest ih => by_cases h : p c <;> simp [pieces, h, ih]

/-- There is one piece more than characters of the class. -/
theorem length_pieces (cs : List Char) : (pieces p cs).length = cs.countP p + 1 := by
  induction cs with
  | nil => rfl
  | cons c rest ih => by_cases h : p c <;> simp [pieces, h, ih]

/-- A text without such characters is a single piece. -/
theorem pieces_eq_singleton {cs : List Char} (h : ∀ c ∈ cs, p c = false) : pieces p cs = [cs] := by
  induction cs with
  | nil => rfl
  | cons c rest ih =>
    rw [pieces, h c List.mem_cons_self, ih fun d hd => h d (List.mem_cons_of_mem c hd)]
    rfl

/-- No piece holds a character of the class. -/
theorem eq_false_of_mem_pieces {cs piece : List Char} (hp : piece ∈ pieces p cs) {c : Char}
    (hc : c ∈ piece) : p c = false := by
  induction cs generalizing piece with
  | nil => simp_all [pieces]
  | cons d rest ih =>
    by_cases h : p d
    · simp only [pieces, h, if_true, List.mem_cons] at hp
      rcases hp with rfl | hp
      · simp at hc
      · exact ih hp hc
    · simp only [pieces, h] at hp
      cases hps : pieces p rest with
      | nil => exact absurd hps (pieces_ne_nil rest)
      | cons first others =>
        rw [hps] at hp ih
        simp only [List.modifyHead, Bool.false_eq_true, if_false, List.mem_cons] at hp
        rcases hp with rfl | hp
        · rcases List.mem_cons.1 hc with rfl | hc
          · simpa using h
          · exact ih List.mem_cons_self hc
        · exact ih (List.mem_cons_of_mem first hp) hc

end Shortlink.Text

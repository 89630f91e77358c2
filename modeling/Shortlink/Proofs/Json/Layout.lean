import Shortlink.Proofs.Json.Passing

/-!
# How tokens are laid out

A text is laid out with tokens if each of them is written as it is when it stands alone, and there
are only blanks of the format around them. Where no two tokens stand side by side without a bracket,
a comma or a colon, these are the tokens that the text is cut into, so the blanks may be other ones.
-/

namespace Shortlink.Json

/-- A text consists of these tokens, with blanks in front of them, between them and behind them. -/
inductive Laid : List Char → List Token → Prop
  | blank {cs : List Char} : Spaces cs → Laid cs []
  | token {front used rest : List Char} {c : Char} {t : Token} {ts : List Token} :
    Spaces front → isSpace c = false → scanToken c used = (t, some []) → Laid rest ts →
    Laid (front ++ c :: (used ++ rest)) (t :: ts)

/-! ## Tokens that are written alone -/

/-- A token that leaves the text behind it can be passed over. A mark is a character that does not
go on with a number, and is a mark whatever stands behind it. -/
lemma scanToken_leaves {c : Char} {cs rest : List Char} {t : Token} :
    scanToken c cs = (t, some rest) →
      t.IsPassable ∧ (t.IsMark →
        (∀ behind, scanToken c (cs ++ behind) = (t, some (rest ++ behind))) ∧
          c.isDigit = false ∧ c ≠ '.' ∧ c ≠ 'e' ∧ c ≠ 'E') := by
  fun_cases scanToken c cs with
  | case1 | case2 | case3 | case4 | case5 | case6 =>
    rintro ⟨⟩
    exact ⟨trivial, fun _ => ⟨fun _ => rfl, by decide⟩⟩
  | case7 =>
    rw [scanString]
    split
    all_goals rintro ⟨⟩
    exact ⟨trivial, False.elim⟩
  | case8 | case9 | case10 =>
    rw [scanWord]
    split
    all_goals rintro ⟨⟩
    exact ⟨trivial, False.elim⟩
  | case11 =>
    rw [scanNumber]
    split
    all_goals rintro ⟨⟩
    exact ⟨trivial, False.elim⟩
  | case12 => rintro ⟨⟩

/-- A token that is no mark needs something behind it that does not go on with a number. -/
lemma scanToken_append {c : Char} {used : List Char} {t : Token}
    (alone : scanToken c used = (t, some [])) {rest : List Char}
    (fits : t.IsMark ∨ EndsNumber rest) :
    scanToken c (used ++ rest) = (t, some rest) := by
  obtain mark | ends := fits
  · exact ((scanToken_leaves alone).2 mark).1 rest
  · obtain ⟨used, rfl, fronts⟩ := fronts_of_scanToken alone
    rw [List.append_nil]
    exact fronts.fixed rest (.inr ends)

/-! ## Texts -/

/-- Blanks in front of a text that ends a number end it too. -/
lemma Spaces.endsNumber_append {front rest : List Char} (h : Spaces front)
    (ends : EndsNumber rest) : EndsNumber (front ++ rest) := by
  cases front with
  | nil => exact ends
  | cons c front => exact h.endsNumber

/-- A text that begins with a mark, if with anything, does not go on with a number. -/
lemma Laid.endsNumber {cs : List Char} {ts : List Token} (h : Laid cs ts)
    (mark : ∀ t ∈ ts.head?, t.IsMark) : EndsNumber cs := by
  cases h with
  | blank spaces => exact spaces.endsNumber
  | token spaces visible alone _ =>
    exact spaces.endsNumber_append (endsNumber_cons ((scanToken_leaves alone).2 (mark _ rfl)).2)

/-- The tokens with which a text is laid out are those that it is cut into. -/
lemma Laid.tokens_eq {cs : List Char} {ts : List Token} (h : Laid cs ts)
    (separated : Separated ts) :
    tokens cs = ts := by
  induction h with
  | blank spaces => exact spaces.cuts.tokens_eq
  | @token front used rest c t ts spaces visible alone behind ih =>
    obtain ⟨neighbours, others⟩ := List.isChain_cons.1 separated
    have fits : t.IsMark ∨ EndsNumber rest := by
      by_cases mark : t.IsMark
      · exact .inl mark
      · exact .inr (behind.endsNumber fun t' mem => (neighbours t' mem).resolve_left mark)
    rw [tokens_spaces_append spaces,
      tokens_cons_of_scan used visible (scanToken_append alone fits), ih others]

/-- A blank in front does not change the tokens. -/
lemma Laid.space {c : Char} {cs : List Char} {ts : List Token} (h : Laid cs ts)
    (space : isSpace c = true) : Laid (c :: cs) ts := by
  cases h with
  | blank spaces => exact .blank (List.forall_mem_cons.2 ⟨space, spaces⟩)
  | token spaces visible alone behind =>
    exact .token (List.forall_mem_cons.2 ⟨space, spaces⟩) visible alone behind

/-- A text that is cut into tokens is laid out with them. -/
lemma Cuts.laid {cs : List Char} {ts : List Token} (h : Cuts cs ts) : Laid cs ts := by
  induction h with
  | done => exact .blank (List.forall_mem_nil _)
  | space space _ ih => exact ih.space space
  | @token c used rest t ts fronts _ ih =>
    have alone := fronts.fixed [] (.inr endsNumber_nil)
    rw [List.append_nil] at alone
    exact .token (List.forall_mem_nil _) fronts.visible alone ih

/-- Tokens that a text is laid out with can be passed over. -/
lemma Laid.passable {cs : List Char} {ts : List Token} (h : Laid cs ts) :
    ∀ t ∈ ts, t.IsPassable := by
  induction h with
  | blank => exact List.forall_mem_nil _
  | token _ _ alone _ ih => exact List.forall_mem_cons.2 ⟨(scanToken_leaves alone).1, ih⟩

end Shortlink.Json

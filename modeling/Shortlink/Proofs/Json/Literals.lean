import Shortlink.Json.Literal
import Shortlink.Proofs.Outcome

/-!
# Where string literals end

A string literal ends at the same quote whether its text is wanted or not, and what stands behind
that quote has no part in the text. So a literal with half of a surrogate pair in it, which has no
text, can still be passed over.
-/

namespace Shortlink.Json

/-- The characters of a string literal up to its closing quote, for a reader that only passes over
them: half of a surrogate pair is as good as any other character. -/
inductive Passed : List Char → Prop
  | nil : Passed []
  | unit {a b c d : Char} {n : Nat} {used : List Char} :
    hexUnit? a b c d = some n → Passed used → Passed ('\\' :: 'u' :: a :: b :: c :: d :: used)
  | escape {c x : Char} {used : List Char} :
    simpleEscape? x = some c → x ≠ 'u' → Passed used → Passed ('\\' :: x :: used)
  | plain {c : Char} {used : List Char} :
    c ≠ '"' → c ≠ '\\' → ¬c < ' ' → Passed used → Passed (c :: used)

/-- Such characters are passed over up to the closing quote. -/
lemma Passed.skipBody {used : List Char} (h : Passed used) (offset : Nat) (rest : List Char) :
    skipBody offset (used ++ '"' :: rest) = .ok rest := by
  induction h generalizing offset with
  | nil => rfl
  | unit named _ ih => simp [Json.skipBody, named, ih]
  | escape named notUnit _ ih =>
    rw [List.cons_append, List.cons_append, Json.skipBody, named]
    · exact ih _
    all_goals simp [notUnit]
  | plain quote backslash plain _ ih =>
    rw [List.cons_append, Json.skipBody, if_neg plain]
    · exact ih _
    all_goals simp [quote, backslash]

/-- What is passed over up to the closing quote are such characters. -/
lemma passed_of_skipBody {offset : Nat} {cs rest : List Char} :
    skipBody offset cs = .ok rest → ∃ used, cs = used ++ '"' :: rest ∧ Passed used := by
  fun_induction skipBody offset cs with
  | case2 =>
    rintro ⟨⟩
    exact ⟨[], rfl, .nil⟩
  | case5 _ _ _ _ _ _ _ named ih =>
    intro h
    obtain ⟨used, rfl, passed⟩ := ih h
    exact ⟨_, rfl, .unit named passed⟩
  | case7 _ _ _ _ notUnit _ named ih =>
    intro h
    obtain ⟨used, rfl, passed⟩ := ih h
    exact ⟨_, rfl, .escape named notUnit passed⟩
  | case10 _ c cs quote alone _ _ escaped plain ih =>
    intro h
    have backslash : c ≠ '\\' := by
      rintro rfl
      cases cs with
      | nil => exact alone rfl rfl
      | cons d cs => exact escaped d cs rfl rfl
    obtain ⟨used, rfl, passed⟩ := ih h
    exact ⟨_, rfl, .plain quote backslash plain passed⟩
  | _ => rintro ⟨⟩

/-- What is read, or the slip, does not depend on what stands behind. -/
def Fixed (f : List Char → Except Slip (List Char × List Char)) : Prop :=
  ∃ x : Except Slip (List Char), ∀ rest, f rest = x.map fun text => (text, rest)

/-- A slip that is there whatever comes behind does not depend on what does. -/
lemma fixed_error {f : List Char → Except Slip (List Char × List Char)} (slip : Slip)
    (h : ∀ rest, f rest = .error slip) : Fixed f := ⟨.error slip, h⟩

/-- A character in front does not make reading depend on what stands behind. -/
lemma Fixed.consChar {f : List Char → Except Slip (List Char × List Char)} (h : Fixed f)
    (c : Char) : Fixed fun rest => consChar c (f rest) := by
  obtain ⟨x, read⟩ := h
  refine ⟨x.map (c :: ·), fun rest => ?_⟩
  show Json.consChar c (f rest) = _
  rw [read]
  cases x <;> rfl

/-- A literal is read on its own, wherever it stands. -/
def Settled (used : List Char) : Prop :=
  ∀ offset, Fixed fun rest => readBody offset (used ++ '"' :: rest)

section

variable {a b c d : Char} {n : Nat} {used : List Char}

/-- The first half of a surrogate pair is read together with what comes next in the literal. -/
lemma Passed.fixed_of_isHighSurrogate (h : Passed used) (named : hexUnit? a b c d = some n)
    (low : ¬isLowSurrogate n = true) (high : isHighSurrogate n = true)
    (ih : ∀ used' : List Char, used'.length < used.length → Passed used' → Settled used')
    (offset : Nat) :
    Fixed fun rest =>
      readBody offset ('\\' :: 'u' :: a :: b :: c :: d :: (used ++ '"' :: rest)) := by
  cases h with
  | nil =>
    apply fixed_error ⟨.brokenSurrogatePair, offset + 7⟩
    simp [readBody, named, low, high]
  | escape _ notUnit _ =>
    apply fixed_error ⟨.brokenSurrogatePair, offset + 8⟩
    simp [readBody, named, low, high, notUnit]
  | plain _ backslash _ _ =>
    apply fixed_error ⟨.brokenSurrogatePair, offset + 7⟩
    simp [readBody, named, low, high, backslash]
  | @unit _ _ _ _ m used named' passed =>
    by_cases low' : isLowSurrogate m = true
    · have behind := (ih used (by simp +arith) passed (offset + 12)).consChar (ofSurrogates n m)
      simpa [readBody, named, named', low, high, low'] using behind
    · apply fixed_error ⟨.loneSurrogate, offset + 12⟩
      simp [readBody, named, named', low, high, low']

/-- The literal that is passed over is read on its own. The proof is by length, since a pair is read
in one step and passed over in two. -/
lemma Passed.settled (h : Passed used) : Settled used := by
  induction length : used.length using Nat.strongRecOn generalizing used with
  | ind _ ih =>
    have ih (used' : List Char) (less : used'.length < used.length) (passed : Passed used') :
        Settled used' := ih used'.length (length ▸ less) passed rfl
    intro offset
    cases h with
    | nil => exact ⟨.ok [], fun _ => rfl⟩
    | @escape c x used named notUnit passed =>
      have behind := (ih used (by simp +arith) passed (offset + 2)).consChar c
      simpa [readBody, named, notUnit] using behind
    | @plain c used quote backslash plain passed =>
      have behind := (ih used (by simp) passed (offset + c.utf8Size)).consChar c
      simpa [readBody, quote, backslash, plain] using behind
    | @unit a b c d n used named passed =>
      by_cases low : isLowSurrogate n = true
      · apply fixed_error ⟨.loneSurrogate, offset + 6⟩
        simp [readBody, named, low]
      by_cases high : isHighSurrogate n = true
      · refine passed.fixed_of_isHighSurrogate named low high ?_ offset
        exact fun used' less => ih used' (Nat.lt_trans less (by simp +arith))
      · have behind := (ih used (by simp +arith) passed (offset + 6)).consChar (Char.ofNat n)
        simpa [readBody, named, low, high] using behind

end

/-- Where a character is put in front of what is read, something is read. -/
lemma exists_of_consChar {c : Char} {r : Except Slip (List Char × List Char)}
    {text rest : List Char} (h : consChar c r = .ok (text, rest)) :
    ∃ text', r = .ok (text', rest) := by
  obtain ⟨⟨text', rest⟩, own, same⟩ := ok_of_map_ok h
  cases same
  exact ⟨text', own⟩

/-- What has a text can be passed over. -/
lemma skipBody_of_readBody {offset : Nat} {cs text rest : List Char} :
    readBody offset cs = .ok (text, rest) → ∀ offset', skipBody offset' cs = .ok rest := by
  fun_induction readBody offset cs generalizing text with
  | case2 =>
    rintro ⟨⟩ _
    rfl
  | case9 _ _ _ _ _ _ first _ _ _ _ _ _ _ _ second _ ih =>
    intro h offset'
    obtain ⟨_, own⟩ := exists_of_consChar h
    simp [skipBody, first, second, ih own]
  | case14 _ _ _ _ _ _ _ named _ _ ih | case16 _ _ _ _ _ _ named ih =>
    intro h offset'
    obtain ⟨_, own⟩ := exists_of_consChar h
    simp [skipBody, named, ih own]
  | case19 _ c cs quote alone _ _ escaped plain ih =>
    intro h offset'
    obtain ⟨_, own⟩ := exists_of_consChar h
    rw [skipBody, if_neg plain, ih own]
    all_goals assumption
  | _ => rintro ⟨⟩

end Shortlink.Json

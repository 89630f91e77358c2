import Shortlink.Proofs.Json.Literals
import Shortlink.Proofs.Json.Numbers

/-!
# Where tokens end

A token that can be passed over ends at the same place whatever stands behind it, unless that goes
on with a number. So blanks before or after a text leave its tokens alone, as far as they have
values: `Cuts` says how a text is cut into such tokens, and blanks are put behind it, or taken away,
along the cut.
-/

namespace Shortlink.Json

/-! ## What stands behind -/

/-- A text may stand for another one behind a number: it begins with the same character, or does not
go on with the number. -/
def Alike (rest rest' : List Char) : Prop := rest'.head? = rest.head? ∨ EndsNumber rest'

/-- Texts that may stand for each other still may behind the same characters. -/
lemma Alike.append {rest rest' : List Char} (h : Alike rest rest') (used : List Char) :
    Alike (used ++ rest) (used ++ rest') := by
  cases used with
  | nil => exact h
  | cons c used => exact .inl rfl

/-- What may stand for a text may stand for what that one may stand for. -/
lemma Alike.trans {cs cs' cs'' : List Char} (h : Alike cs cs') (h' : Alike cs' cs'') :
    Alike cs cs'' := by
  obtain same | ends := h'
  · rw [Alike, EndsNumber, same]
    exact h
  · exact .inr ends

/-- What holds of the first character where a number ends holds of the one in its place. -/
lemma Alike.head {rest rest' : List Char} (h : Alike rest rest') {P : Char → Prop}
    (own : ∀ c ∈ rest.head?, P c) (ends : EndsNumber rest' → ∀ c ∈ rest'.head?, P c) :
    ∀ c ∈ rest'.head?, P c := by
  obtain same | other := h
  · rw [same]
    exact own
  · exact ends other

/-- A text that may stand for one without a digit in front has none either. -/
lemma Alike.stops {rest rest' : List Char} (h : Alike rest rest')
    (stop : ∀ c ∈ rest.head?, c.isDigit = false) : ∀ c ∈ rest'.head?, c.isDigit = false :=
  h.head stop fun ends c mem => (ends c mem).1

/-- A scanner takes these characters, none of them a blank, off the front of a text, and it does so
with another text behind them too. -/
structure Scans {α : Type} (scan : Nat → List Char → Except Slip (α × List Char)) (x : α)
    (used rest : List Char) : Prop where
  visible : ∀ c ∈ used, isSpace c = false
  fixed : ∀ offset rest', Alike rest rest' → scan offset (used ++ rest') = .ok (x, rest')

/-! ## Numbers -/

/-- A digit is no blank. -/
lemma isSpace_of_isDigit {c : Char} (h : c.isDigit = true) : isSpace c = false :=
  OpensNumber.visible (.inr h)

/-- There is no blank among digits. -/
lemma visible_digits {d : Char} {digits : List Char} (digit : d.isDigit = true)
    (digital : ∀ c ∈ digits, c.isDigit = true) : ∀ c ∈ d :: digits, isSpace c = false :=
  List.forall_mem_cons.2 ⟨isSpace_of_isDigit digit, fun c mem => isSpace_of_isDigit (digital c mem)⟩

/-- Digits are taken up to the first character that is none. -/
lemma exists_digits (cs : List Char) :
    ∃ digits rest, cs = digits ++ rest ∧ (∀ c ∈ digits, c.isDigit = true) ∧
      (∀ c ∈ rest.head?, c.isDigit = false) ∧ cs.takeWhile Char.isDigit = digits ∧
      cs.dropWhile Char.isDigit = rest := by
  refine ⟨_, _, List.takeWhile_append_dropWhile.symm, List.all_eq_true.1 List.all_takeWhile, ?_,
    rfl, rfl⟩
  intro c mem
  have stop := List.head?_dropWhile_not Char.isDigit cs
  rw [Option.mem_def.1 mem] at stop
  exact stop

namespace Numeral

/-- The whole part of a number is taken off the front, and no digit is left behind it. -/
lemma split_whole {offset : Nat} {cs whole rest : List Char} :
    scanWhole offset cs = .ok (whole, rest) →
      cs = whole ++ rest ∧ IsWritten whole ∧ ∀ c ∈ rest.head?, c.isDigit = false := by
  fun_cases scanWhole offset cs with
  | case1 | case2 | case6 => rintro ⟨⟩
  | case3 d others plain =>
    rintro ⟨⟩
    exact ⟨rfl, ⟨by simp, .inl rfl⟩, by simpa using plain⟩
  | case4 =>
    rintro ⟨⟩
    exact ⟨rfl, ⟨by simp, .inl rfl⟩, by simp⟩
  | case5 c others nonzero digit =>
    obtain ⟨digits, behind, rfl, digital, stop, taken, left⟩ := exists_digits others
    rw [taken, left]
    rintro ⟨⟩
    exact ⟨rfl, ⟨List.forall_mem_cons.2 ⟨digit, digital⟩, .inr ⟨c, digits, rfl, nonzero⟩⟩, stop⟩

/-- The whole part of a number is scanned from its own digits, which do not go on. -/
lemma scans_whole {offset : Nat} {cs whole rest : List Char}
    (h : scanWhole offset cs = .ok (whole, rest)) :
    ∃ d digits, d.isDigit = true ∧ cs = d :: digits ++ rest ∧
      Scans scanWhole whole (d :: digits) rest := by
  obtain ⟨rfl, written, stop⟩ := split_whole h
  obtain ⟨d, digits, rfl, digit⟩ := written.exists_cons
  refine ⟨d, digits, digit, rfl, fun c mem => isSpace_of_isDigit (written.digital c mem), ?_⟩
  intro offset' rest' alike
  exact scanWhole_append written (alike.stops stop) offset'

/-- The fraction of a number is scanned from its own characters. -/
lemma scans_fraction {offset : Nat} {cs fraction rest : List Char} :
    scanFraction offset cs = .ok (fraction, rest) →
      ∃ used, cs = used ++ rest ∧ Scans scanFraction fraction used rest := by
  fun_cases scanFraction offset cs with
  | case1 | case3 => rintro ⟨⟩
  | case2 d others digit =>
    obtain ⟨digits, behind, rfl, digital, stop, taken, left⟩ := exists_digits others
    rw [List.takeWhile_cons_of_pos digit, List.dropWhile_cons_of_pos digit, taken, left]
    rintro ⟨⟩
    have visible := visible_digits digit digital
    refine ⟨'.' :: d :: digits, rfl, List.forall_mem_cons.2 ⟨rfl, visible⟩, ?_⟩
    intro offset' rest' alike
    obtain ⟨taken, left⟩ := span_digits digital (alike.stops stop)
    simp [scanFraction, digit, taken, left]
  | case4 cs noPoint =>
    rintro ⟨⟩
    refine ⟨[], rfl, List.forall_mem_nil _, ?_⟩
    intro offset' rest' alike
    have own : ∀ c ∈ cs.head?, c ≠ '.' := by
      rintro c mem rfl
      obtain ⟨others, rfl⟩ := List.head?_eq_some_iff.1 mem
      exact noPoint others rfl
    exact scanFraction_of_ends (alike.head own EndsNumber.noPoint) offset'

/-- The digits of an exponent are scanned from themselves. -/
lemma scans_exponentDigits {offset : Nat} {negative : Bool} {cs rest : List Char}
    {exponent : Option Exponent} :
    scanExponentDigits offset negative cs = .ok (exponent, rest) →
      ∃ d digits, d.isDigit = true ∧ cs = d :: digits ++ rest ∧
        Scans (scanExponentDigits · negative) exponent (d :: digits) rest := by
  fun_cases scanExponentDigits offset negative cs with
  | case1 | case3 => rintro ⟨⟩
  | case2 d others digit =>
    obtain ⟨digits, behind, rfl, digital, stop, taken, left⟩ := exists_digits others
    rw [taken, left]
    rintro ⟨⟩
    refine ⟨d, digits, digit, rfl, visible_digits digit digital, ?_⟩
    intro offset' rest' alike
    obtain ⟨taken, left⟩ := span_digits digital (alike.stops stop)
    simp [scanExponentDigits, digit, taken, left]

/-- The digits of a power stand behind the mark of one, and maybe a sign. -/
lemma scans_power {c : Char} (mark : c = 'e' ∨ c = 'E') (sign : List Char) {negative : Bool}
    (shown : ∀ s ∈ sign, isSpace s = false)
    (step : ∀ offset d digits, d.isDigit = true → scanExponent offset (c :: (sign ++ d :: digits)) =
      scanExponentDigits (offset + 1 + sign.length) negative (d :: digits))
    {offset : Nat} {cs rest : List Char} {exponent : Option Exponent}
    (h : scanExponentDigits offset negative cs = .ok (exponent, rest)) :
    ∃ used, c :: (sign ++ cs) = used ++ rest ∧ Scans scanExponent exponent used rest := by
  obtain ⟨d, digits, digit, rfl, scans⟩ := scans_exponentDigits h
  have marked : isSpace c = false := by obtain rfl | rfl := mark <;> rfl
  refine ⟨c :: (sign ++ d :: digits), by simp, ?_, ?_⟩
  · exact List.forall_mem_cons.2 ⟨marked, List.forall_mem_append.2 ⟨shown, scans.visible⟩⟩
  · intro offset' rest' alike
    have fixed := scans.fixed (offset' + 1 + sign.length) rest' alike
    rw [List.cons_append, List.append_assoc, List.cons_append, step _ _ _ digit]
    exact fixed

/-- The exponent of a number is scanned from its own characters. -/
lemma scans_exponent {offset : Nat} {cs rest : List Char} {exponent : Option Exponent} :
    scanExponent offset cs = .ok (exponent, rest) →
      ∃ used, cs = used ++ rest ∧ Scans scanExponent exponent used rest := by
  fun_cases scanExponent offset cs with
  | case1 c mark others =>
    refine scans_power mark ['+'] (by simp [isSpace]) fun offset d digits _ => ?_
    exact if_pos mark
  | case2 c mark others =>
    refine scans_power mark ['-'] (by simp [isSpace]) fun offset d digits _ => ?_
    exact if_pos mark
  | case3 c mark others =>
    refine scans_power mark [] (by simp) fun offset d digits digit => ?_
    rw [List.nil_append, scanExponent, if_pos mark]
    · rfl
    -- a digit is no sign
    all_goals rintro _ ⟨⟩; contradiction
  | case4 c others noMark =>
    rintro ⟨⟩
    refine ⟨[], rfl, List.forall_mem_nil _, ?_⟩
    intro offset' rest' alike
    have own : ∀ d ∈ (c :: others).head?, d ≠ 'e' ∧ d ≠ 'E' := by
      rintro d ⟨⟩
      exact not_or.1 noMark
    exact scanExponent_of_ends (alike.head own EndsNumber.noMark) offset'
  | case5 =>
    rintro ⟨⟩
    refine ⟨[], rfl, List.forall_mem_nil _, ?_⟩
    intro offset' rest' alike
    exact scanExponent_of_ends (alike.head (by simp) EndsNumber.noMark) offset'

/-- A number without its sign is scanned from its own characters. -/
lemma scans_unsigned {offset : Nat} {negative : Bool} {cs rest : List Char} {n : Numeral}
    (h : scanUnsigned offset negative cs = .ok (n, rest)) :
    ∃ d used, d.isDigit = true ∧ cs = d :: used ++ rest ∧
      Scans (scanUnsigned · negative) n (d :: used) rest := by
  obtain ⟨⟨whole, rest₁⟩, first, h⟩ := ok_of_bind_ok h
  obtain ⟨⟨fraction, rest₂⟩, second, h⟩ := ok_of_bind_ok h
  obtain ⟨⟨exponent, rest₃⟩, third, h⟩ := ok_of_bind_ok h
  cases h
  obtain ⟨d, digits, digit, rfl, scans₁⟩ := scans_whole first
  obtain ⟨used₂, rfl, scans₂⟩ := scans_fraction second
  obtain ⟨used₃, rfl, scans₃⟩ := scans_exponent third
  refine ⟨d, digits ++ (used₂ ++ used₃), digit, by simp, ?_, ?_⟩
  · rw [← List.cons_append]
    simp only [List.forall_mem_append]
    exact ⟨scans₁.visible, scans₂.visible, scans₃.visible⟩
  · intro offset' rest' alike
    rw [← List.cons_append, List.append_assoc, List.append_assoc, scanUnsigned,
      scans₁.fixed _ _ ((alike.append used₃).append used₂)]
    change (scanFraction _ _ >>= _) = _
    rw [scans₂.fixed _ _ (alike.append used₃)]
    change (scanExponent _ _ >>= _) = _
    rw [scans₃.fixed _ _ alike]
    rfl

/-- The numeral at the front of a text is there with another text behind it too. -/
lemma scans_scan {cs rest : List Char} {n : Numeral} :
    scan cs = .ok (n, rest) →
      ∃ c used, OpensNumber c ∧ cs = c :: used ++ rest ∧
        Scans (fun _ => scan) n (c :: used) rest := by
  fun_cases scan cs with
  | case1 others =>
    intro h
    obtain ⟨d, used, -, rfl, scans⟩ := scans_unsigned h
    refine ⟨'-', d :: used, .inl rfl, rfl, List.forall_mem_cons.2 ⟨rfl, scans.visible⟩, ?_⟩
    exact fun _ rest' alike => scans.fixed 1 rest' alike
  | case2 cs unsigned =>
    intro h
    obtain ⟨d, used, digit, rfl, scans⟩ := scans_unsigned h
    refine ⟨d, used, .inr digit, rfl, scans.visible, fun _ rest' alike => ?_⟩
    rw [List.cons_append, scan]
    · exact scans.fixed 0 rest' alike
    · rintro _ ⟨⟩
      contradiction

end Numeral

/-! ## Words -/

/-- A word is passed over only where it stands. -/
lemma eq_append_of_skipWord {offset : Nat} {word cs rest : List Char} :
    skipWord offset word cs = .ok rest → cs = word ++ rest := by
  fun_induction skipWord offset word cs with
  | case1 cs =>
    rintro ⟨⟩
    rfl
  | case3 offset word w cs ih =>
    intro h
    rw [ih h]
    rfl
  | case2 | case4 => rintro ⟨⟩

/-- A word is passed over wherever it stands. -/
lemma skipWord_append (offset : Nat) (word rest : List Char) :
    skipWord offset word (word ++ rest) = .ok rest := by
  induction word generalizing offset with
  | nil => rfl
  | cons w word ih =>
    rw [List.cons_append, skipWord, if_pos rfl]
    exact ih _

/-! ## Tokens -/

/-- Nothing is wrong with a token: it may stand in a value. -/
def Token.IsSound : Token → Prop
  | .number (.error _) _ | .string (.error _) _ | .stray _ => False
  | _ => True

/-- A token can be passed over, whether or not it can be read. -/
def Token.IsPassable : Token → Prop
  | .number _ (some _) | .string _ (some _) | .stray _ => False
  | _ => True

/-- A token stands at the front of a text, and is there with another text behind it too. It does not
end in a blank. -/
structure Fronts (c : Char) (used : List Char) (t : Token) (rest : List Char) : Prop where
  visible : isSpace c = false
  last : ∀ d ∈ used.getLast?, isSpace d = false
  fixed : ∀ rest', Alike rest rest' → scanToken c (used ++ rest') = (t, some rest')

/-- A string token stands at the front of its text. -/
lemma fronts_string {cs rest : List Char} {t : Token} (h : scanString cs = (t, some rest)) :
    ∃ used, cs = used ++ rest ∧ Fronts '"' used t rest := by
  rw [scanString] at h
  cases skipped : skipBody 1 cs with
  | error slip =>
    rw [skipped] at h
    cases h
  | ok rest =>
    obtain ⟨used, rfl, passed⟩ := passed_of_skipBody skipped
    obtain ⟨x, read⟩ := passed.settled 1
    dsimp only at read
    rw [skipped, read] at h
    cases h
    refine ⟨used ++ ['"'], by simp, rfl, by simp [isSpace], fun rest' _ => ?_⟩
    rw [List.append_assoc, List.singleton_append]
    change scanString _ = _
    rw [scanString, read, passed.skipBody]
    cases x <;> rfl

/-- A number token stands at the front of its text. -/
lemma fronts_number {c : Char} {cs rest : List Char} {t : Token}
    (h : scanNumber (c :: cs) = (t, some rest)) :
    ∃ used, cs = used ++ rest ∧ Fronts c used t rest := by
  rw [scanNumber] at h
  cases scanned : Numeral.scan (c :: cs) with
  | error slip =>
    rw [scanned] at h
    cases h
  | ok found =>
    obtain ⟨n, rest⟩ := found
    obtain ⟨c, used, opens, same, scans⟩ := Numeral.scans_scan scanned
    cases same
    rw [scanned] at h
    cases h
    obtain ⟨visible, others⟩ := List.forall_mem_cons.1 scans.visible
    refine ⟨used, rfl, visible, ?_, fun rest' alike => ?_⟩
    · exact fun d mem => others d (List.mem_of_getLast? mem)
    · have fixed := scans.fixed 0 rest' alike
      have length (rest : List Char) : (c :: (used ++ rest)).length - rest.length =
          used.length + 1 := by simp; omega
      rw [List.cons_append] at fixed
      rw [scanToken_of_opensNumber opens, scanNumber, fixed]
      change (Token.number (n.value ((c :: (used ++ rest')).length - rest'.length)) none, _) =
        (Token.number (n.value ((c :: (used ++ rest)).length - rest.length)) none, _)
      rw [length, length]

/-- A word of the format stands at the front of its text. -/
lemma fronts_word {c : Char} {word cs rest : List Char} {own t : Token}
    (scan : ∀ cs, scanToken c cs = scanWord word own cs) (visible : isSpace c = false)
    (last : ∀ d ∈ word.getLast?, isSpace d = false) (h : scanWord word own cs = (t, some rest)) :
    ∃ used, cs = used ++ rest ∧ Fronts c used t rest := by
  rw [scanWord] at h
  cases skipped : skipWord 1 word cs with
  | error slip =>
    rw [skipped] at h
    cases h
  | ok rest =>
    rw [skipped] at h
    cases h
    refine ⟨word, eq_append_of_skipWord skipped, visible, last, fun rest' _ => ?_⟩
    rw [scan, scanWord, skipWord_append]

/-- A mark stands at the front of its text. -/
lemma fronts_mark {c : Char} {t : Token} (scan : ∀ cs, scanToken c cs = (t, some cs))
    (visible : isSpace c = false) (cs : List Char) :
    ∃ used, cs = used ++ cs ∧ Fronts c used t cs :=
  ⟨[], rfl, visible, by simp, fun rest' _ => scan rest'⟩

/-- A token that leaves the text behind it is there with another text behind it too. -/
lemma fronts_of_scanToken {c : Char} {cs rest : List Char} {t : Token} :
    scanToken c cs = (t, some rest) → ∃ used, cs = used ++ rest ∧ Fronts c used t rest := by
  fun_cases scanToken c cs with
  | case1 | case2 | case3 | case4 | case5 | case6 =>
    rintro ⟨⟩
    exact fronts_mark (fun _ => rfl) rfl cs
  | case7 => exact fronts_string
  | case8 | case9 | case10 => exact fronts_word (fun _ => rfl) rfl (by simp [isSpace])
  | case11 => exact fronts_number
  | case12 => rintro ⟨⟩

/-- A word that can be used leaves a text behind it. -/
lemma leaves_word {word cs : List Char} {own : Token}
    (usable : (scanWord word own cs).1.IsSound ∨ (scanWord word own cs).1.IsPassable) :
    ∃ rest, (scanWord word own cs).2 = some rest := by
  rw [scanWord] at usable ⊢
  cases skipped : skipWord 1 word cs with
  | error slip =>
    rw [skipped] at usable
    obtain sound | passable := usable
    · exact sound.elim
    · exact passable.elim
  | ok rest => exact ⟨rest, rfl⟩

/-- A token that can be read or passed over leaves the text behind it. -/
lemma leaves_of_scanToken {c : Char} {cs : List Char} :
    (scanToken c cs).1.IsSound ∨ (scanToken c cs).1.IsPassable →
      ∃ rest, (scanToken c cs).2 = some rest := by
  fun_cases scanToken c cs with
  | case1 | case2 | case3 | case4 | case5 | case6 => exact fun _ => ⟨cs, rfl⟩
  | case7 =>
    rw [scanString]
    cases skipped : skipBody 1 cs with
    | ok rest => exact fun _ => ⟨rest, rfl⟩
    | error slip =>
      rintro (sound | passable)
      · cases read : readBody 1 cs with
        | error slip' =>
          rw [read] at sound
          exact sound.elim
        | ok found =>
          rw [skipBody_of_readBody read] at skipped
          cases skipped
      · exact passable.elim
  | case8 | case9 | case10 => exact leaves_word
  | case11 =>
    rw [scanNumber]
    cases Numeral.scan (c :: cs) with
    | error slip =>
      rintro (sound | passable)
      · exact sound.elim
      · exact passable.elim
    | ok found => exact fun _ => ⟨found.2, rfl⟩
  | case12 =>
    rintro (sound | passable)
    · exact sound.elim
    · exact passable.elim

/-- A text is cut into tokens, with blanks between them. -/
inductive Cuts : List Char → List Token → Prop
  | done : Cuts [] []
  | space {c : Char} {cs : List Char} {ts : List Token} :
    isSpace c = true → Cuts cs ts → Cuts (c :: cs) ts
  | token {c : Char} {used rest : List Char} {t : Token} {ts : List Token} :
    Fronts c used t rest → Cuts rest ts → Cuts (c :: (used ++ rest)) (t :: ts)

/-- A blank in front is no token. -/
lemma tokens_cons_of_isSpace {c : Char} (space : isSpace c = true) (cs : List Char) :
    tokens (c :: cs) = tokens cs := by
  rw [tokens, lexemes, lexFrom, if_pos space]
  exact map_token_lexFrom _ _ _ _

/-- A text is read as the tokens that it is cut into. -/
lemma Cuts.tokens_eq {cs : List Char} {ts : List Token} (h : Cuts cs ts) : tokens cs = ts := by
  induction h with
  | done => rfl
  | space space _ ih => rw [tokens_cons_of_isSpace space, ih]
  | @token c used rest t ts fronts _ ih =>
    rw [tokens_cons_of_scan used fronts.visible (fronts.fixed rest (.inl rfl)), ih]

/-- The first token of a text is the one that stands at its first character. -/
lemma exists_tokens_cons {c : Char} (visible : isSpace c = false) (cs : List Char) :
    ∃ ts, tokens (c :: cs) = (scanToken c cs).1 :: ts := by
  rw [tokens, lexemes, lexFrom, if_neg (by simp [visible])]
  split
  · next scan => exact ⟨_, by rw [scan]; rfl⟩
  · next scan => exact ⟨_, by rw [scan]; rfl⟩

/-- The tokens of a text cut it, if all of them can be read or passed over. -/
lemma cuts_tokens {cs : List Char} (usable : ∀ t ∈ tokens cs, t.IsSound ∨ t.IsPassable) :
    Cuts cs (tokens cs) := by
  induction length : cs.length using Nat.strongRecOn generalizing cs with
  | ind n ih =>
    cases cs with
    | nil => exact .done
    | cons c cs =>
      cases visible : isSpace c with
      | true =>
        rw [tokens_cons_of_isSpace visible] at usable ⊢
        exact .space visible (ih cs.length (by simp [← length]) usable rfl)
      | false =>
        obtain ⟨ts, first⟩ := exists_tokens_cons visible cs
        rw [first] at usable
        obtain ⟨rest, left⟩ := leaves_of_scanToken (List.forall_mem_cons.1 usable).1
        obtain ⟨used, rfl, fronts⟩ := fronts_of_scanToken (Prod.ext rfl left)
        have others := tokens_cons_of_scan used visible (fronts.fixed rest (.inl rfl))
        rw [first] at others
        obtain ⟨-, rfl⟩ := List.cons.inj others
        rw [first]
        have less : rest.length < n := by
          simp only [← length, List.length_cons, List.length_append]
          omega
        exact .token fronts (ih rest.length less (List.forall_mem_cons.1 usable).2 rfl)

/-! ## Blanks around a text -/

/-- All characters of a text are blanks of the format. -/
def Spaces (cs : List Char) : Prop := ∀ c ∈ cs, isSpace c = true

/-- Blanks alone are cut into no tokens. -/
lemma Spaces.cuts {cs : List Char} (h : Spaces cs) : Cuts cs [] := by
  induction cs with
  | nil => exact .done
  | cons c cs ih =>
    obtain ⟨space, others⟩ := List.forall_mem_cons.1 h
    exact .space space (ih others)

/-- The format has four blanks. -/
lemma eq_of_isSpace {c : Char} (h : isSpace c = true) :
    c = ' ' ∨ c = '\n' ∨ c = '\t' ∨ c = '\r' := by
  simpa [isSpace, or_assoc] using h

/-- Blanks end a number. -/
lemma Spaces.endsNumber {cs : List Char} (h : Spaces cs) : EndsNumber cs := by
  intro c mem
  obtain rfl | rfl | rfl | rfl := eq_of_isSpace (h c (List.mem_of_head? mem)) <;> decide

/-- A token stays at the front if another text that may stand for the rest comes behind it. -/
lemma Fronts.alike {c : Char} {used rest rest' : List Char} {t : Token}
    (h : Fronts c used t rest) (alike : Alike rest rest') : Fronts c used t rest' :=
  ⟨h.visible, h.last, fun rest'' alike' => h.fixed rest'' (alike.trans alike')⟩

/-- Blanks behind a text go in front of nothing that a token in the text could need. -/
lemma Spaces.alike {back : List Char} (h : Spaces back) (rest : List Char) :
    Alike rest (rest ++ back) ∧ Alike (rest ++ back) rest := by
  cases rest with
  | nil => exact ⟨.inr h.endsNumber, .inr endsNumber_nil⟩
  | cons c rest => exact ⟨.inl rfl, .inl rfl⟩

/-- Blanks behind a text are cut away. -/
lemma Cuts.append {cs back : List Char} {ts : List Token} (h : Cuts cs ts) (spaces : Spaces back) :
    Cuts (cs ++ back) ts := by
  induction h with
  | done => exact spaces.cuts
  | space space _ ih => exact .space space ih
  | @token c used rest t ts fronts _ ih =>
    rw [List.cons_append, List.append_assoc]
    exact .token (fronts.alike (spaces.alike rest).1) ih

/-- A token that stands in front of blanks does not reach into them. -/
lemma Fronts.exists_append {c : Char} {used rest cs back : List Char} {t : Token}
    (h : Fronts c used t rest) (spaces : Spaces back) (same : used ++ rest = cs ++ back) :
    ∃ behind, cs = used ++ behind ∧ rest = behind ++ back := by
  obtain ⟨behind, rfl, rfl⟩ | ⟨reached, rfl, rfl⟩ := List.append_eq_append_iff.1 same
  · exact ⟨behind, rfl, rfl⟩
  · cases d? : reached.getLast? with
    | none =>
      obtain rfl := List.getLast?_eq_none_iff.1 d?
      exact ⟨[], by simp, rfl⟩
    | some d =>
      -- the token would end in one of the blanks
      have space := spaces d (List.mem_append_left rest (List.mem_of_getLast? d?))
      have visible := h.last d (by simp [d?])
      rw [visible] at space
      contradiction

/-- A text of blanks is cut into nothing, as the empty text is. -/
lemma Spaces.cuts_nil {cs : List Char} {ts : List Token} (h : Spaces cs) (cuts : Cuts cs ts) :
    Cuts [] ts := by
  rw [← cuts.tokens_eq, h.cuts.tokens_eq]
  exact .done

/-- Blanks behind a text may be taken away. -/
lemma Cuts.of_append {cs back : List Char} {ts : List Token} (spaces : Spaces back)
    (h : Cuts (cs ++ back) ts) : Cuts cs ts := by
  generalize same : cs ++ back = all at h
  induction h generalizing cs with
  | done =>
    obtain ⟨rfl, -⟩ := List.append_eq_nil_iff.1 same
    exact .done
  | space space cuts ih =>
    cases cs with
    | nil =>
      obtain rfl := same
      exact spaces.cuts_nil (.space space cuts)
    | cons d cs =>
      obtain ⟨rfl, others⟩ := List.cons.inj same
      exact .space space (ih others)
  | token fronts cuts ih =>
    cases cs with
    | nil =>
      obtain rfl := same
      exact spaces.cuts_nil (.token fronts cuts)
    | cons d cs =>
      obtain ⟨rfl, others⟩ := List.cons.inj same
      obtain ⟨behind, rfl, rfl⟩ := fronts.exists_append spaces others.symm
      exact .token (fronts.alike (spaces.alike behind).2) (ih rfl)

/-- Blanks in front of a text give no tokens. -/
lemma tokens_spaces_append {front : List Char} (h : Spaces front) (cs : List Char) :
    tokens (front ++ cs) = tokens cs := by
  induction front with
  | nil => rfl
  | cons c front ih =>
    obtain ⟨space, others⟩ := List.forall_mem_cons.1 h
    rw [List.cons_append, tokens_cons_of_isSpace space, ih others]

/-- A text has tokens with which nothing is wrong exactly if it has them between blanks. -/
theorem tokens_between_spaces {front back : List Char} {ts : List Token}
    (sound : ∀ t ∈ ts, t.IsSound) (before : Spaces front) (behind : Spaces back) (cs : List Char) :
    tokens (front ++ (cs ++ back)) = ts ↔ tokens cs = ts := by
  rw [tokens_spaces_append before]
  constructor
  · rintro rfl
    exact ((cuts_tokens fun t mem => .inl (sound t mem)).of_append behind).tokens_eq
  · rintro rfl
    exact ((cuts_tokens fun t mem => .inl (sound t mem)).append behind).tokens_eq

end Shortlink.Json

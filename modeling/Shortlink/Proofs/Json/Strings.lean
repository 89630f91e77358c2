import Mathlib.Tactic.Lemma
import Shortlink.Json.Printer
import Shortlink.Json.Token
import Shortlink.Text.Utf8.RoundTrip

/-!
# Strings that are read back

A string that is written as JSON is read as one token with the text of the string, whatever stands
behind it. The proof goes by the three ways in which a character is written, and `Spells` carries
the result over to texts that are put together from strings and signs.
-/

namespace Shortlink.Json

/-! ## Characters -/

/-- How a character of a string is written: behind a backslash, by its number, or as it is. -/
inductive Written : Char → List Char → Prop
  | escape {c x} : simpleEscape? x = some c → x ≠ 'u' → Written c ['\\', x]
  | unit {c} :
    c.toNat < 32 →
    Written c
      ['\\', 'u', '0', '0', Text.Hex.lowerDigit (c.toNat / 16), Text.Hex.lowerDigit (c.toNat % 16)]
  | plain {c} : c ≠ '"' → c ≠ '\\' → ¬ c < ' ' → Written c [c]

/-- A character is written in one of the three ways. -/
lemma written_writeChar (c : Char) : Written c (writeChar c) := by
  unfold writeChar
  split
  case h_8 quote backslash _ _ _ _ _ =>
    split
    · next control => exact .unit control
    · next plain => exact .plain quote backslash plain
  all_goals exact .escape rfl (by decide)

/-- The number of a control character is read back from its two digits. -/
lemma hexUnit?_control {n : Nat} (h : n < 32) :
    hexUnit? '0' '0' (Text.Hex.lowerDigit (n / 16)) (Text.Hex.lowerDigit (n % 16)) = some n := by
  have zero : Text.Hex.digit? '0' = some 0 := rfl
  have high := Text.Hex.digit?_lowerDigit (n := n / 16) (by omega)
  have low := Text.Hex.digit?_lowerDigit (n := n % 16) (by omega)
  rw [hexUnit?, zero, high, low]
  exact congrArg some (by omega)

/-- A character is read back from how it is written, in front of what follows. -/
lemma Written.readBody {c : Char} {w : List Char} (h : Written c w) (offset : Nat)
    (rest : List Char) :
    ∃ behind, readBody offset (w ++ rest) = consChar c (readBody behind rest) := by
  cases h with
  | escape named notUnit =>
    refine ⟨offset + 2, ?_⟩
    rw [List.cons_append, List.singleton_append, Json.readBody, named]
    all_goals simp [notUnit]
  | unit control =>
    have low : isLowSurrogate c.toNat = false := by simp [isLowSurrogate]; omega
    have high : isHighSurrogate c.toNat = false := by simp [isHighSurrogate]; omega
    refine ⟨offset + 6, ?_⟩
    simp only [List.cons_append, List.nil_append]
    rw [readBody.eq_4, hexUnit?_control control]
    simp [low, high, Char.ofNat_toNat]
  | plain quote backslash plain =>
    refine ⟨offset + c.utf8Size, ?_⟩
    rw [List.singleton_append, Json.readBody, if_neg plain]
    all_goals simp [quote, backslash]

/-- A character is passed over as it is written, in front of what follows. -/
lemma Written.skipBody {c : Char} {w : List Char} (h : Written c w) (offset : Nat)
    (rest : List Char) : ∃ behind, skipBody offset (w ++ rest) = skipBody behind rest := by
  cases h with
  | escape named notUnit =>
    refine ⟨offset + 2, ?_⟩
    rw [List.cons_append, List.singleton_append, Json.skipBody, named]
    all_goals simp [notUnit]
  | unit control =>
    refine ⟨offset + 6, ?_⟩
    simp only [List.cons_append, List.nil_append]
    rw [skipBody.eq_4, hexUnit?_control control]
  | plain quote backslash plain =>
    refine ⟨offset + c.utf8Size, ?_⟩
    rw [List.singleton_append, Json.skipBody, if_neg plain]
    all_goals simp [quote, backslash]

/-! ## Literals -/

/-- What is read up to the closing quote is the text that was written. -/
lemma readBody_flatMap (cs : List Char) (offset : Nat) (rest : List Char) :
    readBody offset (cs.flatMap writeChar ++ '"' :: rest) = .ok (cs, rest) := by
  induction cs generalizing offset with
  | nil => rfl
  | cons c cs ih =>
    rw [List.flatMap_cons, List.append_assoc]
    obtain ⟨behind, first⟩ :=
      (written_writeChar c).readBody offset (cs.flatMap writeChar ++ '"' :: rest)
    rw [first, ih behind]
    rfl

/-- A string is passed over as it is written, up to the closing quote. -/
lemma skipBody_flatMap (cs : List Char) (offset : Nat) (rest : List Char) :
    skipBody offset (cs.flatMap writeChar ++ '"' :: rest) = .ok rest := by
  induction cs generalizing offset with
  | nil => rfl
  | cons c cs ih =>
    rw [List.flatMap_cons, List.append_assoc]
    obtain ⟨behind, first⟩ :=
      (written_writeChar c).skipBody offset (cs.flatMap writeChar ++ '"' :: rest)
    rw [first, ih behind]

/-! ## Tokens -/

/-- The tokens do not depend on where the text stands. -/
lemma map_token_lexFrom (start start' skip : Nat) (cs : List Char) :
    (lexFrom start skip cs).map (·.token) = (lexFrom start' skip cs).map (·.token) := by
  induction cs generalizing start start' skip with
  | nil => cases skip <;> rfl
  | cons c rest ih =>
    cases skip with
    | succ skip => exact ih _ _ _
    | zero =>
      rw [lexFrom, lexFrom]
      split
      · exact ih _ _ _
      · split
        · rfl
        · exact congrArg (List.cons _) (ih _ _ _)

/-- What is taken already leaves no token. -/
lemma map_token_lexFrom_append (start : Nat) (front rest : List Char) :
    (lexFrom start front.length (front ++ rest)).map (·.token) = tokens rest := by
  induction front generalizing start with
  | nil => exact map_token_lexFrom _ _ _ _
  | cons c front ih => exact ih _

/-- A token at the front that leaves the text behind it. -/
lemma tokens_cons_of_scan {c : Char} (front : List Char) {rest : List Char} {t : Token}
    (visible : isSpace c = false) (scan : scanToken c (front ++ rest) = (t, some rest)) :
    tokens (c :: (front ++ rest)) = t :: tokens rest := by
  rw [tokens, lexemes, lexFrom, if_neg (by simp [visible]), scan]
  change t :: _ = _
  rw [List.length_append, Nat.add_sub_cancel]
  exact congrArg _ (map_token_lexFrom_append _ front rest)

/-- A text that is given by its bytes has the tokens of the text. -/
lemma byteTokens_encode (cs : List Char) : byteTokens (Text.Utf8.encode cs) = tokens cs := by
  rw [byteTokens, Text.Utf8.decodeLossy_encode, Text.Utf8.gaps_encode]
  rfl

/-- A text is read as these tokens, whatever stands behind it. -/
def Spells (cs : List Char) (ts : List Token) : Prop :=
  ∀ rest, tokens (cs ++ rest) = ts ++ tokens rest

/-- Texts that are read as their tokens are so one behind the other. -/
lemma Spells.append {cs cs' : List Char} {ts ts' : List Token} (h : Spells cs ts)
    (h' : Spells cs' ts') : Spells (cs ++ cs') (ts ++ ts') := by
  intro rest
  rw [List.append_assoc, List.append_assoc, h, h']

/-- A sign that is a token of its own. -/
lemma spells_sign {c : Char} {t : Token} (visible : isSpace c = false)
    (scan : ∀ rest, scanToken c rest = (t, some rest)) : Spells [c] [t] :=
  fun rest => tokens_cons_of_scan [] visible (scan rest)

/-- A string that was written is one token with the text of the string. -/
lemma spells_writeString (s : String) : Spells (writeString s) [.string (.ok s) none] := by
  intro rest
  have scan : scanToken '"' ((s.toList.flatMap writeChar ++ ['"']) ++ rest) =
      (.string (.ok s) none, some rest) := by
    rw [List.append_assoc, List.singleton_append]
    change scanString _ = _
    rw [scanString, readBody_flatMap, skipBody_flatMap]
    exact congrArg (fun s => (Token.string (.ok s) none, some rest)) (String.ofList_toList)
  exact tokens_cons_of_scan _ rfl scan

end Shortlink.Json

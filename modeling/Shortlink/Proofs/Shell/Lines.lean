import Shortlink.Proofs.Shell

/-!
# Lines of bytes

Every input is a number of lines, each with a line feed behind it, and a last line that need not
have one. A carriage return at the end of a line changes nothing of what the line asks for. What is
typed is one line unless it has a line feed in it.
-/

namespace Shortlink.Shell

/-- Lines, each with a line feed behind it. -/
def terminated (lines : List (List UInt8)) : List UInt8 := lines.flatMap (· ++ [10])

/-- The same bytes with a carriage return in front of every line feed. -/
def crlf (input : List UInt8) : List UInt8 :=
  input.flatMap fun b => if b = 10 then [13, 10] else [b]

/-- What a line asks for, if it is the bytes of a text. -/
def command? (line : List UInt8) : Option Command := (lineText? line).map Command.parse

/-! ## Splitting -/

/-- The first line comes with its line feed in front of the others. -/
lemma terminated_cons (line : List UInt8) (lines : List (List UInt8)) (rest : List UInt8) :
    terminated (line :: lines) ++ rest = line ++ 10 :: (terminated lines ++ rest) := by
  simp [terminated]

/-- A line is split off at its line feed. -/
lemma splitLines_append_lf {line : List UInt8} (h : 10 ∉ line) (rest : List UInt8) :
    splitLines (line ++ 10 :: rest) = line :: splitLines rest := by
  induction line with
  | nil => rfl
  | cons b line ih =>
    rw [List.mem_cons, not_or] at h
    obtain ⟨hb, h⟩ := h
    rw [List.cons_append, splitLines, if_neg (Ne.symm hb), ih h]

/-- Lines with line feeds behind them are split off one by one. -/
lemma splitLines_terminated {lines : List (List UInt8)} (h : ∀ line ∈ lines, 10 ∉ line)
    (rest : List UInt8) : splitLines (terminated lines ++ rest) = lines ++ splitLines rest := by
  induction lines with
  | nil => rfl
  | cons line lines ih =>
    obtain ⟨hline, h⟩ := List.forall_mem_cons.1 h
    rw [terminated_cons, splitLines_append_lf hline, ih h, List.cons_append]

/-- What has no line feed is one line, or none if it is empty. -/
lemma splitLines_of_not_mem {line : List UInt8} (h : 10 ∉ line) :
    splitLines line = if line = [] then [] else [line] := by
  induction line with
  | nil => rfl
  | cons b line ih =>
    rw [List.mem_cons, not_or] at h
    obtain ⟨hb, h⟩ := h
    rw [splitLines, if_neg (Ne.symm hb), ih h]
    cases line <;> rfl

/-- A line is read up to its line feed, or up to the end of the input. -/
lemma splitLines_append {line : List UInt8} (h : 10 ∉ line) (full : line ≠ []) {rest : List UInt8}
    (ends : rest = [] ∨ rest.head? = some 10) :
    ∃ more, splitLines (line ++ rest) = line :: more := by
  obtain rfl | begins := ends
  · exact ⟨[], by rw [List.append_nil, splitLines_of_not_mem h, if_neg full]⟩
  · obtain ⟨rest', rfl⟩ := List.head?_eq_some_iff.1 begins
    exact ⟨splitLines rest', splitLines_append_lf h rest'⟩

/-- Every input is made of lines. -/
lemma exists_eq_terminated_append (input : List UInt8) :
    ∃ lines last, (∀ line ∈ lines, 10 ∉ line) ∧ 10 ∉ last ∧ input = terminated lines ++ last := by
  induction input with
  | nil => exact ⟨[], [], List.forall_mem_nil _, List.not_mem_nil, rfl⟩
  | cons b input ih =>
    obtain ⟨lines, last, hlines, hlast, rfl⟩ := ih
    by_cases hb : b = 10
    · refine ⟨[] :: lines, last, ?_, hlast, by rw [terminated_cons, hb, List.nil_append]⟩
      exact List.forall_mem_cons.2 ⟨List.not_mem_nil, hlines⟩
    · cases lines with
      | nil => exact ⟨[], b :: last, hlines, by simp [hlast, Ne.symm hb], rfl⟩
      | cons line lines =>
        obtain ⟨hline, hlines⟩ := List.forall_mem_cons.1 hlines
        refine ⟨(b :: line) :: lines, last, ?_, hlast, ?_⟩
        · exact List.forall_mem_cons.2 ⟨by simp [hline, Ne.symm hb], hlines⟩
        · simp only [terminated_cons, List.cons_append]

/-- Without a line feed nothing is changed. -/
lemma crlf_of_not_mem {line : List UInt8} (h : 10 ∉ line) : crlf line = line := by
  induction line with
  | nil => rfl
  | cons b line ih =>
    rw [List.mem_cons, not_or] at h
    obtain ⟨hb, h⟩ := h
    rw [crlf, List.flatMap_cons, if_neg (Ne.symm hb), ← crlf, ih h, List.singleton_append]

/-- With line feeds the carriage returns become part of the lines. -/
lemma crlf_terminated {lines : List (List UInt8)} (h : ∀ line ∈ lines, 10 ∉ line)
    {last : List UInt8} (hlast : 10 ∉ last) :
    crlf (terminated lines ++ last) = terminated (lines.map (· ++ [13])) ++ last := by
  induction lines with
  | nil => exact crlf_of_not_mem hlast
  | cons line lines ih =>
    obtain ⟨hline, h⟩ := List.forall_mem_cons.1 h
    have split : crlf (line ++ 10 :: (terminated lines ++ last)) =
        crlf line ++ 13 :: 10 :: crlf (terminated lines ++ last) := by
      simp [crlf]
    rw [terminated_cons, split, crlf_of_not_mem hline, ih h, List.map_cons, terminated_cons,
      List.append_assoc, List.singleton_append]

/-! ## Carriage returns -/

/-- A character with a byte below 128 has no other byte. -/
lemma utf8EncodeChar_of_mem {c : Char} {b : UInt8} (small : b.toNat < 128)
    (h : b ∈ String.utf8EncodeChar c) : String.utf8EncodeChar c = [b] := by
  have high {n : Nat} (large : 128 ≤ n) (byte : n < 256) : b ≠ UInt8.ofNat n := by
    rintro rfl
    rw [Text.Utf8.toNat_ofNat byte] at small
    omega
  unfold String.utf8EncodeChar at h ⊢
  simp only at h ⊢
  split at h
  case isTrue one =>
    rw [List.mem_singleton] at h
    rw [if_pos one, h]
  case isFalse =>
    -- each of several bytes has its highest bit set
    exfalso
    split at h
    case isTrue =>
      simp only [List.mem_cons, List.not_mem_nil, or_false] at h
      rcases h with e | e <;> exact high (by omega) (by omega) e
    case isFalse =>
      split at h
      case isTrue =>
        simp only [List.mem_cons, List.not_mem_nil, or_false] at h
        rcases h with e | e | e <;> exact high (by omega) (by omega) e
      case isFalse =>
        simp only [List.mem_cons, List.not_mem_nil, or_false] at h
        rcases h with e | e | e | e <;> exact high (by omega) (by omega) e

/-- The only character of a single byte is the one of its number. -/
lemma mem_encode_iff {c : Char} {b : UInt8} (own : String.utf8EncodeChar c = [b])
    (small : b.toNat < 128) {cs : List Char} : b ∈ Text.Utf8.encode cs ↔ c ∈ cs := by
  rw [Text.Utf8.encode, List.mem_flatMap]
  constructor
  · rintro ⟨c', mem, h⟩
    have same : Text.Utf8.encode [c'] = Text.Utf8.encode [c] := by
      simp [Text.Utf8.encode, utf8EncodeChar_of_mem small h, own]
    have decoded := congrArg Text.Utf8.decode? same
    rw [Text.Utf8.decode?_encode, Text.Utf8.decode?_encode] at decoded
    cases decoded
    exact mem
  · intro mem
    exact ⟨c, mem, by simp [own]⟩

/-- A carriage return at the end of a text is a character of it. -/
lemma encode_eq_append_cr_iff {cs : List Char} {line : List UInt8} :
    Text.Utf8.encode cs = line ++ [13] ↔
      ∃ cs', cs = cs' ++ ['\r'] ∧ Text.Utf8.encode cs' = line := by
  have snoc (cs' : List Char) (c : Char) : Text.Utf8.encode (cs' ++ [c]) =
      Text.Utf8.encode cs' ++ String.utf8EncodeChar c := by
    simp [Text.Utf8.encode]
  have cr : Text.Utf8.encode ['\r'] = [13] := rfl
  constructor
  · intro h
    obtain rfl | ⟨cs', c, rfl⟩ := List.eq_nil_or_concat cs
    · simp [Text.Utf8.encode] at h
    · rw [List.concat_eq_append, snoc] at h
      obtain ⟨b, bs, written, -⟩ := Text.Utf8.lead_encodeChar c []
      have last : (String.utf8EncodeChar c).getLast? = some 13 := by
        have := congrArg List.getLast? h
        rw [List.getLast?_append, List.getLast?_concat, written] at this
        rw [written]
        simpa using this
      have byte := utf8EncodeChar_of_mem (by decide) (List.mem_of_getLast? last)
      have same : [c] = ['\r'] := by
        apply Option.some.inj
        rw [← Text.Utf8.decode?_encode, ← Text.Utf8.decode?_encode ['\r'], cr, ← byte]
        simp [Text.Utf8.encode]
      rw [byte] at h
      exact ⟨cs', by rw [List.concat_eq_append, same], List.append_cancel_right h⟩
  · rintro ⟨cs', rfl, rfl⟩
    rw [snoc]
    rfl

/-- A carriage return behind a line is decoded as one. -/
lemma decode?_append_cr (line : List UInt8) :
    Text.Utf8.decode? (line ++ [13]) = (Text.Utf8.decode? line).map (· ++ ['\r']) := by
  apply Option.ext
  intro cs
  rw [Text.Utf8.decode?_eq_some_iff, encode_eq_append_cr_iff, Option.map_eq_some_iff]
  simp only [Text.Utf8.decode?_eq_some_iff]
  constructor
  · rintro ⟨cs', rfl, written⟩
    exact ⟨cs', written, rfl⟩
  · rintro ⟨cs', written, rfl⟩
    exact ⟨cs', rfl, written⟩

/-- A blank at the end of a line is no part of what it asks for. -/
lemma parse_append_cr (cs : List Char) :
    Command.parse (String.ofList (cs ++ ['\r'])) = Command.parse (String.ofList cs) := by
  have blank : ∀ c ∈ ['\r'], Text.isBlank c = true := List.forall_mem_singleton.2 rfl
  simp only [Command.parse, String.toList_ofList, Text.strip_append_back blank]

/-- A carriage return behind a line makes no difference. -/
lemma command?_append_cr (line : List UInt8) : command? (line ++ [13]) = command? line := by
  rw [command?, lineText?, decode?_append_cr, command?, lineText?]
  simp only [Option.map_map, Function.comp_def, parse_append_cr]

/-! ## Typing -/

/-- What is typed for a text: its bytes, and a line feed behind them. -/
def typed (text : String) : List UInt8 := Text.Utf8.encode text.toList ++ [10]

/-- A text is a line: the shell reads it as one when it is typed. -/
def IsLine (text : String) : Prop := splitLines (typed text) = [Text.Utf8.encode text.toList]

/-- What is read of a text asks for what the text does. -/
lemma command?_encode (text : String) :
    command? (Text.Utf8.encode text.toList) = some (Command.parse text) := by
  rw [command?, lineText?, Text.Utf8.decode?_encode, Option.map_some, String.ofList_toList,
    Option.map_some]

/-- There is no line feed in the lines of an input. -/
lemma not_mem_of_mem_splitLines {input line : List UInt8} (h : line ∈ splitLines input) :
    10 ∉ line := by
  obtain ⟨lines, last, hlines, hlast, rfl⟩ := exists_eq_terminated_append input
  rw [splitLines_terminated hlines, splitLines_of_not_mem hlast, List.mem_append] at h
  rcases h with mem | mem
  · exact hlines line mem
  · split at mem
    · cases mem
    · rw [List.mem_singleton.1 mem]
      exact hlast

/-- A text is a line exactly if it has no line feed. -/
lemma isLine_iff {text : String} : IsLine text ↔ '\n' ∉ text.toList := by
  rw [← mem_encode_iff (c := '\n') (b := 10) rfl (by decide), IsLine, typed]
  constructor
  · intro one
    have only :
        Text.Utf8.encode text.toList ∈ splitLines (Text.Utf8.encode text.toList ++ [10]) := by
      rw [one]
      exact List.mem_singleton_self _
    exact not_mem_of_mem_splitLines only
  · intro h
    exact splitLines_append_lf h []

/-- A text with a line feed is read as several lines. -/
lemma splitLines_typed_append {front : String} (h : '\n' ∉ front.toList) (back : String) :
    splitLines (typed (front ++ "\n" ++ back)) =
      Text.Utf8.encode front.toList :: splitLines (typed back) := by
  rw [← mem_encode_iff (c := '\n') (b := 10) rfl (by decide)] at h
  have whole : typed (front ++ "\n" ++ back) =
      Text.Utf8.encode front.toList ++ 10 :: typed back := by
    simp [typed, Text.Utf8.encode, show "\n".toList = ['\n'] from rfl,
      show String.utf8EncodeChar '\n' = [10] from rfl]
  rw [whole, splitLines_append_lf h]

end Shortlink.Shell

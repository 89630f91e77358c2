import Mathlib.Data.List.Infix
import Shortlink.Proofs.Command

/-!
# What a line asks for

A line has a first word and an argument, and blanks around both. Which command it is depends on the
two alone: `Parts` takes a line apart, and `Asks` says of a word and an argument what they ask for.
Only the text of a line that is no command is kept as it was typed.
-/

namespace Shortlink

namespace Text

/-- All characters are blanks. -/
def Blanks (cs : List Char) : Prop := ∀ c ∈ cs, isBlank c = true

/-- At least one character, and none of them a blank. -/
def IsWord (cs : List Char) : Prop := cs ≠ [] ∧ ∀ c ∈ cs, isBlank c = false

/-- No blanks stand around a word. -/
lemma IsWord.isStripped {word : List Char} (h : IsWord word) : IsStripped word :=
  isStripped_of_visible h.2

end Text

namespace Command

open Text

/-- The words that commands begin with. -/
def words : List String :=
  ["shorten", "s", "delete", "d", "rm", "copy", "c", "resolve", "r", "count", "help", "?", "quit",
    "exit", "q"]

/-- A word that can be taken for a URL: there is a point in it, or what stands behind a scheme. -/
def IsUrlLike (word : List Char) : Prop := '.' ∈ word ∨ [':', '/', '/'] <:+: word

/-- No command is meant by a word and an argument. -/
def IsNone (word argument : List Char) : Prop :=
  (String.ofList word ∉ words ∨
      (String.ofList word = "resolve" ∨ String.ofList word = "r") ∧ argument = []) ∧
    ¬ (argument = [] ∧ IsUrlLike word)

/-- A line is taken apart into its first word and its argument, with the blanks around both. -/
inductive Parts (line word argument : List Char) : Prop
  | intro (front gap back : List Char) :
    line = front ++ (word ++ (gap ++ (argument ++ back))) →
    Blanks front → IsWord word → Blanks gap → (gap = [] → argument = []) →
    IsStripped argument → Blanks back → Parts line word argument

/-- What a word and an argument ask for; `line` is the text if that is nothing. -/
inductive Asks (line word argument : List Char) : Command → Prop
  | shorten :
    String.ofList word = "shorten" ∨ String.ofList word = "s" →
    Asks line word argument (.shorten (String.ofList argument))
  | deleteShown :
    String.ofList word = "delete" ∨ String.ofList word = "d" ∨ String.ofList word = "rm" →
    argument = [] → Asks line word argument (.delete none)
  | delete :
    String.ofList word = "delete" ∨ String.ofList word = "d" ∨ String.ofList word = "rm" →
    argument ≠ [] → Asks line word argument (.delete (some (String.ofList argument)))
  | copy : String.ofList word = "copy" ∨ String.ofList word = "c" → Asks line word argument .copy
  | resolve :
    String.ofList word = "resolve" ∨ String.ofList word = "r" → argument ≠ [] →
    Asks line word argument (.resolve (String.ofList argument))
  | count : String.ofList word = "count" → Asks line word argument .count
  | help : String.ofList word = "help" ∨ String.ofList word = "?" → Asks line word argument .help
  | quit :
    String.ofList word = "quit" ∨ String.ofList word = "exit" ∨ String.ofList word = "q" →
    Asks line word argument .quit
  | url :
    String.ofList word ∉ words → argument = [] → IsUrlLike word →
    Asks line word argument (.shorten (String.ofList word))
  | unknown : IsNone word argument → Asks line word argument (.unknown (String.ofList line))

/-- A text is the argument of a line: all that stands behind a word of a command but the blanks, or
the only word there is, which can be taken for a URL. -/
inductive IsArgument (line text : List Char) : Prop
  | behind {word : List Char} :
    Parts line word text → String.ofList word ∈ words → IsArgument line text
  | alone : Parts line text [] → IsUrlLike text → IsArgument line text

/-- The argument of a command, if it has one. -/
def argument? : Command → Option String
  | .shorten url => some url
  | .delete key => key
  | .resolve key => some key
  | .copy | .count | .help | .quit | .empty | .unknown _ => none

/-- Two commands are the same up to the text of a line that is none. -/
inductive Alike : Command → Command → Prop
  | same (c : Command) : Alike c c
  | unknown (text text' : String) : Alike (.unknown text) (.unknown text')

/-- A word has a scheme exactly if the sign behind one is in it. -/
lemma hasScheme_iff {word : List Char} : hasScheme word = true ↔ [':', '/', '/'] <:+: word := by
  fun_induction hasScheme word with
  | case1 rest => exact iff_of_true rfl ⟨[], rest, rfl⟩
  | case2 c rest other ih =>
    rw [ih, List.infix_cons_iff]
    refine ⟨.inr, fun h => h.resolve_left ?_⟩
    rintro ⟨rest', begins⟩
    cases begins
    exact other _ rfl rfl
  | case3 => exact iff_of_false (by decide) (by simp)

/-- A word looks like a URL exactly if it can be taken for one. -/
lemma looksLikeUrl_iff {word : List Char} : looksLikeUrl word = true ↔ IsUrlLike word := by
  rw [looksLikeUrl, Bool.or_eq_true, List.contains_iff_mem, hasScheme_iff, IsUrlLike]

/-- None of the words can be taken for a URL. -/
lemma not_isUrlLike_of_mem_words {word : List Char} (h : String.ofList word ∈ words) :
    ¬ IsUrlLike word := by
  have plain : ∀ w ∈ words, looksLikeUrl w.toList = false := by decide
  rw [← looksLikeUrl_iff, ← String.toList_ofList (l := word), plain _ h]
  exact Bool.false_ne_true

/-- The words are looked for one after the other, so what is left in the end is none of them. -/
lemma asks_ofWord {line word argument : List Char} (full : word ≠ []) :
    Asks line word argument (ofWord line word argument) := by
  have nonempty : ¬ String.ofList word = "" := by simpa using full
  rw [ofWord]
  simp only [if_neg nonempty]
  split
  · next w => exact .shorten w
  split
  · next w =>
    split
    · next none => exact .deleteShown w (List.isEmpty_iff.1 none)
    · next some => exact .delete w (by simpa using some)
  split
  · next w => exact .copy w
  split
  · next w => exact .resolve w.1 (by simpa using w.2)
  split
  · next w => exact .count w
  split
  · next w => exact .help w
  split
  · next w => exact .quit w
  next shorten delete copy resolve count help quit =>
    have other : String.ofList word ∉ words ∨
        (String.ofList word = "resolve" ∨ String.ofList word = "r") ∧ argument = [] := by
      by_cases w : String.ofList word = "resolve" ∨ String.ofList word = "r"
      · exact .inr ⟨w, by simpa [w] using resolve⟩
      · refine .inl ?_
        simp only [words, List.mem_cons, List.not_mem_nil, or_false]
        tauto
    split
    · next url =>
      rw [looksLikeUrl_iff, List.isEmpty_iff] at url
      exact .url (fun known => not_isUrlLike_of_mem_words known url.2) url.1 url.2
    · next url =>
      rw [looksLikeUrl_iff, List.isEmpty_iff] at url
      exact .unknown ⟨other, url⟩

/-- A word and an argument ask for one thing only. -/
lemma Asks.eq_ofWord {line word argument : List Char} {c : Command}
    (h : Asks line word argument c) (full : word ≠ []) : c = ofWord line word argument := by
  have nonempty : ¬ String.ofList word = "" := by simpa using full
  cases h with
  | shorten w => obtain w | w := w <;> simp [ofWord, w]
  | deleteShown w none => obtain w | w | w := w <;> simp [ofWord, w, none]
  | delete w some => obtain w | w | w := w <;> simp [ofWord, w, some]
  | copy w => obtain w | w := w <;> simp [ofWord, w]
  | resolve w some => obtain w | w := w <;> simp [ofWord, w, some]
  | count w => simp [ofWord, w]
  | help w => obtain w | w := w <;> simp [ofWord, w]
  | quit w => obtain w | w | w := w <;> simp [ofWord, w]
  | url unknown none like =>
    have like := looksLikeUrl_iff.2 like
    simp only [words, List.mem_cons, List.not_mem_nil, or_false, not_or] at unknown
    simp [ofWord, nonempty, unknown, none, like]
  | unknown none =>
    obtain ⟨unknown | ⟨w, none⟩, plain⟩ := none
    · rw [← looksLikeUrl_iff] at plain
      simp only [words, List.mem_cons, List.not_mem_nil, or_false, not_or] at unknown
      simp [ofWord, nonempty, unknown, plain]
    · rw [← looksLikeUrl_iff] at plain
      obtain w | w := w <;> simp_all [ofWord]

/-- Only a line that is no command tells how it was typed. -/
lemma alike_ofWord (line line' word argument : List Char) :
    Alike (ofWord line word argument) (ofWord line' word argument) := by
  rw [ofWord, ofWord]
  split_ifs <;> constructor

/-! ## Taking a line apart -/

/-- It is the first word that counts, and what stands behind it apart from blanks. -/
lemma parse_of_word {line : String} {front word rest : List Char}
    (split : line.toList = front ++ (word ++ rest)) (hfront : Blanks front) (hword : IsWord word)
    (apart : ∀ c ∈ rest.head?, isBlank c = true) :
    parse line = ofWord (strip line.toList) word (strip rest) := by
  obtain ⟨full, plain⟩ := hword
  have bare : strip line.toList = strip (word ++ rest) := by rw [split, strip_append_front hfront]
  have taken : ∃ behind,
      splitWord (strip line.toList) = (word, behind) ∧ strip behind = strip rest := by
    rw [bare]
    cases rest with
    | nil =>
      -- a word alone is a word with a blank behind it
      have blank : Blanks [' '] := List.forall_mem_singleton.2 rfl
      rw [List.append_nil, ← strip_append_back blank word]
      exact splitWord_strip full plain rfl []
    | cons b rest =>
      have blank : Blanks [b] := List.forall_mem_singleton.2 (apart b rfl)
      obtain ⟨behind, parted, same⟩ := splitWord_strip full plain (apart b rfl) rest
      exact ⟨behind, parted, same.trans (strip_append_front blank rest).symm⟩
  obtain ⟨behind, parted, same⟩ := taken
  rw [parse, parted]
  exact congrArg (ofWord _ word) same

/-- A line asks for what its parts ask for. -/
lemma Parts.parse_eq {line : String} {word argument : List Char}
    (h : Parts line.toList word argument) :
    parse line = ofWord (strip line.toList) word argument := by
  obtain ⟨front, gap, back, split, hfront, hword, hgap, apart, own, hback⟩ := h
  have rest : strip (gap ++ (argument ++ back)) = argument := by
    rw [strip_append hgap hback, strip_eq_self own]
  have first : ∀ c ∈ (gap ++ (argument ++ back)).head?, isBlank c = true := by
    intro c mem
    cases gap with
    | nil =>
      rw [apart rfl] at mem
      exact hback c (List.mem_of_mem_head? mem)
    | cons b gap =>
      cases mem
      exact hgap c List.mem_cons_self
  rw [parse_of_word split hfront hword first, rest]

/-- A line asks for what its word and its argument do. -/
lemma Parts.asks {line : String} {word argument : List Char}
    (h : Parts line.toList word argument) :
    Asks (strip line.toList) word argument (parse line) := by
  rw [h.parse_eq]
  obtain ⟨front, gap, back, -, -, hword, -⟩ := h
  exact asks_ofWord hword.1

/-- What is not blank begins with a word when the blanks are taken off. -/
lemma isWord_takeWhile {cs : List Char} (h : strip cs ≠ []) :
    IsWord ((strip cs).takeWhile (!isBlank ·)) := by
  constructor
  · obtain ⟨c, rest, begins⟩ := List.exists_cons_of_ne_nil h
    have plain : isBlank c = false := (isStripped_strip cs).1 c (by rw [begins]; rfl)
    simp [begins, plain]
  · intro c mem
    have plain := List.all_eq_true.1 List.all_takeWhile c mem
    simpa using plain

/-- Every line that is not blank has its parts. -/
lemma exists_parts {line : String} (full : isBlankText line = false) :
    ∃ word argument, Parts line.toList word argument := by
  have some : strip line.toList ≠ [] := by
    rw [ne_eq, ← List.isEmpty_iff, isEmpty_strip, full]
    exact Bool.false_ne_true
  let word := (strip line.toList).takeWhile (!isBlank ·)
  let rest := (strip line.toList).dropWhile (!isBlank ·)
  have parted : word ++ rest = strip line.toList := List.takeWhile_append_dropWhile
  obtain ⟨front, back, hfront, hback, whole⟩ := exists_eq_append_strip line.toList
  obtain ⟨gap, back', hgap, hback', behind⟩ := exists_eq_append_strip rest
  refine ⟨word, strip rest, .intro front gap (back' ++ back) ?_ hfront (isWord_takeWhile some) hgap
    ?_ (isStripped_strip rest) (List.forall_mem_append.2 ⟨hback', hback⟩)⟩
  · calc line.toList
      _ = front ++ (word ++ rest ++ back) := by rw [parted, ← whole]
      _ = front ++ (word ++ (gap ++ (strip rest ++ back')) ++ back) := by rw [← behind]
      _ = front ++ (word ++ (gap ++ (strip rest ++ (back' ++ back)))) := by simp
  · -- the word ends where a blank comes, so without a blank there is nothing behind it
    rintro rfl
    by_contra argued
    obtain ⟨c, cs, begins⟩ := List.exists_cons_of_ne_nil argued
    have plain : isBlank c = false := (isStripped_strip rest).1 c (by rw [begins]; rfl)
    have stops := List.head?_dropWhile_not (!isBlank ·) (strip line.toList)
    rw [show (strip line.toList).dropWhile (!isBlank ·) = _ from behind, begins] at stops
    simp [plain] at stops

/-! ## Writing a command back -/

/-- The blanks around a line make no difference. -/
lemma parse_trim (line : String) : parse (trim line) = parse line := by
  rw [parse, parse, toList_trim, strip_strip]

/-- Blanks around a line do not matter. -/
lemma parse_surrounded {front back : String} (hfront : Blanks front.toList)
    (hback : Blanks back.toList) (line : String) : parse (front ++ line ++ back) = parse line := by
  rw [parse, parse, String.toList_append, String.toList_append, List.append_assoc,
    strip_append hfront hback]

/-- A text without blanks around it is not changed by trimming. -/
lemma trim_ofList {cs : List Char} (h : IsStripped cs) :
    trim (String.ofList cs) = String.ofList cs := by
  rw [trim, String.toList_ofList, strip_eq_self h]

/-- What has a character and no blank at its ends is not blank. -/
lemma isBlankText_ofList {cs : List Char} (h : IsStripped cs) (some : cs ≠ []) :
    isBlankText (String.ofList cs) = false := by
  rw [← isEmpty_strip, String.toList_ofList, strip_eq_self h]
  simpa using some

/-- A line that is written for a command asks for this command again. -/
lemma Asks.parse_line {line word argument : List Char} {c : Command}
    (h : Asks line word argument c) (hword : IsWord word) (own : IsStripped argument)
    (again : parse (String.ofList line) = c) : parse c.line = c := by
  cases h with
  | shorten => rw [Command.line, parse_shorten, trim_ofList own]
  | deleteShown => rfl
  | delete _ some =>
    rw [Command.line, parse_delete, isBlankText_ofList own some, trim_ofList own]
    rfl
  | copy => rfl
  | resolve _ some =>
    rw [Command.line, parse_resolve (isBlankText_ofList own some), trim_ofList own]
  | count => rfl
  | help => rfl
  | quit => rfl
  | url => rw [Command.line, parse_shorten, trim_ofList hword.isStripped]
  | unknown => exact again

/-! ## Laws of reading a line -/

/-- A blank line asks for nothing. -/
lemma parse_of_blank {line : String} (blank : isBlankText line = true) : parse line = .empty := by
  rw [← isEmpty_strip, List.isEmpty_iff] at blank
  rw [parse, blank]
  rfl

/-- A blank line asks for nothing, and any other for what its parts ask for. -/
lemma parse_cases (line : String) :
    (isBlankText line = true ∧ parse line = .empty) ∨
      ∃ word argument, Parts line.toList word argument ∧
        Asks (strip line.toList) word argument (parse line) := by
  cases blank : isBlankText line with
  | true => exact .inl ⟨rfl, parse_of_blank blank⟩
  | false =>
    obtain ⟨word, argument, parts⟩ := exists_parts blank
    exact .inr ⟨word, argument, parts, parts.asks⟩

/-- The line of a command that was read is read as that command. -/
lemma parse_line_parse (line : String) : parse (parse line).line = parse line := by
  obtain ⟨-, empty⟩ | ⟨word, argument, parts, asks⟩ := parse_cases line
  · rw [empty]
    rfl
  · obtain ⟨front, gap, back, -, -, hword, -, -, own, -⟩ := parts
    exact asks.parse_line hword own (parse_trim line)

/-- It does not matter which blanks stand behind the first word, unless the text is kept. -/
lemma alike_of_gap {line line' : String} {front word gap gap' rest : List Char}
    (split : line.toList = front ++ (word ++ (gap ++ rest)))
    (split' : line'.toList = front ++ (word ++ (gap' ++ rest))) (hfront : Blanks front)
    (hword : IsWord word) (hgap : Blanks gap) (some : gap ≠ []) (hgap' : Blanks gap')
    (some' : gap' ≠ []) : Alike (parse line) (parse line') := by
  have first {gap : List Char} (hgap : Blanks gap) (some : gap ≠ []) :
      ∀ c ∈ (gap ++ rest).head?, isBlank c = true := by
    obtain ⟨b, gap, rfl⟩ := List.exists_cons_of_ne_nil some
    rintro c ⟨⟩
    exact hgap b List.mem_cons_self
  rw [parse_of_word split hfront hword (first hgap some),
    parse_of_word split' hfront hword (first hgap' some'), strip_append_front hgap,
    strip_append_front hgap']
  exact alike_ofWord _ _ _ _

/-- The argument of a command stands in the line. -/
lemma Asks.isArgument {line line' word argument : List Char} {c : Command} {text : String}
    (h : Asks line' word argument c) (parts : Parts line word argument)
    (has : c.argument? = some text) : IsArgument line text.toList := by
  have behind (known : String.ofList word ∈ words) :
      IsArgument line (String.ofList argument).toList := by
    rw [String.toList_ofList]
    exact .behind parts known
  cases h with
  | shorten w =>
    cases has
    exact behind (by obtain w | w := w <;> simp [w, words])
  | delete w =>
    cases has
    exact behind (by obtain w | w | w := w <;> simp [w, words])
  | resolve w =>
    cases has
    exact behind (by obtain w | w := w <;> simp [w, words])
  | url _ none like =>
    cases has
    subst none
    rw [String.toList_ofList]
    exact .alone parts like
  | _ => cases has

/-- A key that is typed is not blank. -/
lemma isBlankText_key {line : String} {key : Key}
    (h : parse line = .delete (some key) ∨ parse line = .resolve key) :
    isBlankText key = false := by
  obtain ⟨-, empty⟩ | ⟨word, argument, ⟨-, -, -, -, -, -, -, -, own, -⟩, asks⟩ := parse_cases line
  · rw [empty] at h
    obtain h | h := h <;> cases h
  · obtain h | h := h
    · rw [h] at asks
      cases asks with
      | delete _ some => exact isBlankText_ofList own some
    · rw [h] at asks
      cases asks with
      | resolve _ some => exact isBlankText_ofList own some

/-- A word that can be taken for a URL asks for what it asks for behind the word to shorten. -/
lemma parse_url {w : String} (hword : IsWord w.toList) (like : IsUrlLike w.toList) :
    parse w = parse ("shorten " ++ w) := by
  have parts : Parts w.toList w.toList [] :=
    .intro [] [] [] (by simp) (List.forall_mem_nil _) hword (List.forall_mem_nil _) (fun _ => rfl)
      ⟨by simp, by simp⟩ (List.forall_mem_nil _)
  have asks : Asks (strip w.toList) w.toList [] (.shorten (String.ofList w.toList)) :=
    .url (fun known => not_isUrlLike_of_mem_words known like) rfl like
  rw [parse_shorten, parts.parse_eq, ← asks.eq_ofWord hword.1, trim, strip_eq_self hword.isStripped]

/-- A line is unknown exactly if its word and its argument mean no command. -/
lemma parse_eq_unknown_iff {line text : String} :
    parse line = .unknown text ↔
      text = trim line ∧
        ∃ word argument, Parts line.toList word argument ∧ IsNone word argument := by
  constructor
  · intro h
    obtain ⟨-, empty⟩ | ⟨word, argument, parts, asks⟩ := parse_cases line
    · cases empty.symm.trans h
    · rw [h] at asks
      cases asks with
      | unknown none => exact ⟨rfl, word, argument, parts, none⟩
  · rintro ⟨rfl, word, argument, parts, none⟩
    have asks : Asks (strip line.toList) word argument _ := .unknown none
    rw [parts.parse_eq]
    obtain ⟨front, gap, back, -, -, hword, -⟩ := parts
    exact (asks.eq_ofWord hword.1).symm

/-- What reading a line comes to. A blank line asks for nothing, and any other for what its first
word and its argument ask for, whatever blanks there are. A command that is written back asks for
the same; blanks around a line do not matter, and neither do those behind the first word but for the
text of a line that is no command. An argument is a piece of the line, with no blanks at its ends,
and the key that a line names is not blank. A word that can be taken for a URL asks to be shortened.
A line is no command exactly if its first word is none, or is one that needs an argument and has
none, and the line is no such word. -/
theorem parse_laws (line : String) :
    ((isBlankText line = true ∧ parse line = .empty) ∨
        ∃ word argument, Parts line.toList word argument ∧
          Asks (strip line.toList) word argument (parse line)) ∧
      parse (parse line).line = parse line ∧
      (∀ front back : String, Blanks front.toList → Blanks back.toList →
        parse (front ++ line ++ back) = parse line) ∧
      (∀ front word gap gap' rest : List Char,
        line.toList = front ++ (word ++ (gap ++ rest)) → Blanks front → IsWord word →
        Blanks gap → gap ≠ [] → Blanks gap' → gap' ≠ [] →
        Alike (parse line) (parse (String.ofList (front ++ (word ++ (gap' ++ rest)))))) ∧
      (∀ text, (parse line).argument? = some text → IsArgument line.toList text.toList) ∧
      (∀ key, parse line = .delete (some key) ∨ parse line = .resolve key →
        isBlankText key = false) ∧
      (∀ w : String, IsWord w.toList → IsUrlLike w.toList → parse w = parse ("shorten " ++ w)) ∧
      ∀ text, parse line = .unknown text ↔
        text = trim line ∧
          ∃ word argument, Parts line.toList word argument ∧ IsNone word argument := by
  refine ⟨parse_cases line, parse_line_parse line, fun front back hfront hback => ?_,
    fun front word gap gap' rest split hfront hword hgap some hgap' some' => ?_, fun text has => ?_,
    fun key => isBlankText_key, fun w => parse_url, fun text => parse_eq_unknown_iff⟩
  · exact parse_surrounded hfront hback line
  · exact alike_of_gap split (String.toList_ofList ..) hfront hword hgap some hgap' some'
  · obtain ⟨-, empty⟩ | ⟨word, argument, parts, asks⟩ := parse_cases line
    · rw [empty] at has
      cases has
    · exact asks.isArgument parts has

end Command

end Shortlink

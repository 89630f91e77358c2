/-!
# Blank characters

White space in the sense of the Unicode property `White_Space`, and what is built on it: stripping
the blanks around a text and splitting off its first word. Everything is stated over lists of
characters; `trim` is the same operation on strings.
-/

namespace Shortlink.Text

/-- The 25 characters that have the property `White_Space`. -/
def isBlank (c : Char) : Bool :=
  let n := c.toNat
  (9 ≤ n && n ≤ 13) || n == 0x20 || n == 0x85 || n == 0xA0 || n == 0x1680 ||
    (0x2000 ≤ n && n ≤ 0x200A) || n == 0x2028 || n == 0x2029 || n == 0x202F || n == 0x205F ||
    n == 0x3000

/-- Core's ASCII class of white space is part of the property. -/
theorem isBlank_of_isWhitespace {c : Char} (h : c.isWhitespace = true) : isBlank c = true := by
  simp only [Char.isWhitespace, Bool.or_eq_true, decide_eq_true_eq] at h
  rcases h with ((rfl | rfl) | rfl) | rfl <;> rfl

/-- A digit is no blank. -/
theorem isBlank_of_isDigit {c : Char} (h : c.isDigit = true) : isBlank c = false := by
  have digit : 48 ≤ c.toNat ∧ c.toNat ≤ 57 := Char.isDigit_iff_toNat.1 h
  simp [isBlank]
  omega

/-- A text without the blanks in front. -/
def stripStart (cs : List Char) : List Char :=
  cs.dropWhile isBlank

/-- A text without the blanks behind. -/
def stripEnd (cs : List Char) : List Char :=
  (cs.reverse.dropWhile isBlank).reverse

/-- A text without the blanks around it. -/
def strip (cs : List Char) : List Char :=
  stripEnd (stripStart cs)

/-- No blank stands at either end. -/
def IsStripped (cs : List Char) : Prop :=
  (∀ c ∈ cs.head?, isBlank c = false) ∧ ∀ c ∈ cs.getLast?, isBlank c = false

/-- A text without blanks has none at its ends. -/
theorem isStripped_of_visible {cs : List Char} (h : ∀ c ∈ cs, isBlank c = false) :
    IsStripped cs :=
  ⟨fun c first => h c (List.mem_of_head? first), fun c last => h c (List.mem_of_getLast? last)⟩

/-- A text that begins with no blanks and does not end with one. -/
theorem isStripped_append {front back : List Char} (hf : front ≠ [])
    (plain : ∀ c ∈ front, isBlank c = false) (hb : ∀ c ∈ back.getLast?, isBlank c = false) :
    IsStripped (front ++ back) := by
  constructor
  · intro c first
    obtain ⟨d, front, rfl⟩ := List.exists_cons_of_ne_nil hf
    cases first
    exact plain c List.mem_cons_self
  · intro c last
    rw [List.getLast?_append] at last
    cases e : back.getLast? with
    | none =>
      rw [e] at last
      exact plain c (List.mem_of_getLast? last)
    | some d =>
      rw [e] at last
      cases last
      exact hb c e

/-- Dropping stops at what is no blank. -/
theorem head?_stripStart {cs : List Char} {c : Char} (h : c ∈ (stripStart cs).head?) :
    isBlank c = false := by
  have stop := List.head?_dropWhile_not isBlank cs
  rw [show (cs.dropWhile isBlank).head? = some c from h] at stop
  exact stop

/-- What has no blank in front stays. -/
theorem stripStart_eq_self {cs : List Char} (h : ∀ c ∈ cs.head?, isBlank c = false) :
    stripStart cs = cs := by
  cases cs with
  | nil => rfl
  | cons c rest => simp [stripStart, h c (by simp)]

/-- Blanks in front do not matter. -/
theorem stripStart_append {front : List Char} (h : ∀ c ∈ front, isBlank c = true)
    (cs : List Char) : stripStart (front ++ cs) = stripStart cs := by
  simp [stripStart, List.dropWhile_append_of_pos h]

/-- Blanks behind are blanks in front of the reversed text. -/
theorem stripEnd_eq (cs : List Char) : stripEnd cs = (stripStart cs.reverse).reverse := rfl

/-- Blanks behind do not matter. -/
theorem stripEnd_append {back : List Char} (h : ∀ c ∈ back, isBlank c = true) (cs : List Char) :
    stripEnd (cs ++ back) = stripEnd cs := by
  rw [stripEnd_eq, List.reverse_append, stripStart_append (by simpa using h), ← stripEnd_eq]

/-- Taking blanks off the end leaves the front, as far as anything is left. -/
theorem head?_stripEnd {cs : List Char} {c : Char} (h : c ∈ (stripEnd cs).head?) :
    c ∈ cs.head? := by
  rw [stripEnd_eq, List.head?_reverse] at h
  obtain ⟨front, hfront⟩ := List.dropWhile_suffix (p := isBlank) (l := cs.reverse)
  have : cs.head? = (front ++ stripStart cs.reverse).getLast? := by
    rw [show front ++ stripStart cs.reverse = cs.reverse from hfront, List.getLast?_reverse]
  rw [this, List.getLast?_append]
  simp [Option.mem_def.1 h]

/-- What is left has no blank at either end. -/
theorem isStripped_strip (cs : List Char) : IsStripped (strip cs) := by
  constructor
  · intro c h
    exact head?_stripStart (head?_stripEnd h)
  · intro c h
    rw [strip, stripEnd_eq, List.getLast?_reverse] at h
    exact head?_stripStart h

/-- What has no blank at either end stays. -/
theorem strip_eq_self {cs : List Char} (h : IsStripped cs) : strip cs = cs := by
  rw [strip, stripStart_eq_self h.1, stripEnd_eq,
    stripStart_eq_self (by simpa [List.head?_reverse] using h.2), List.reverse_reverse]

/-- Blanks on either side do not matter. -/
theorem strip_append {front back : List Char} (hf : ∀ c ∈ front, isBlank c = true)
    (hb : ∀ c ∈ back, isBlank c = true) (cs : List Char) :
    strip (front ++ (cs ++ back)) = strip cs := by
  rw [strip, stripStart_append hf, strip]
  by_cases h : (stripStart cs).isEmpty
  · have all : stripStart (cs ++ back) = stripStart back := by
      simp only [stripStart] at h ⊢
      rw [List.dropWhile_append, if_pos h]
    have none : stripStart back = [] := by
      simpa [stripStart] using stripStart_append hb []
    rw [all, none, List.isEmpty_iff.1 h]
  · have split : stripStart (cs ++ back) = stripStart cs ++ back := by
      simp only [stripStart] at h ⊢
      rw [List.dropWhile_append, if_neg h]
    rw [split, stripEnd_append hb]

/-- Blanks in front of a text are stripped. -/
theorem strip_append_front {front : List Char} (h : ∀ c ∈ front, isBlank c = true)
    (cs : List Char) : strip (front ++ cs) = strip cs := by
  have drop := strip_append h (List.forall_mem_nil _) cs
  rwa [List.append_nil] at drop

/-- Blanks behind a text are stripped. -/
theorem strip_append_back {back : List Char} (h : ∀ c ∈ back, isBlank c = true)
    (cs : List Char) : strip (cs ++ back) = strip cs := by
  have drop := strip_append (List.forall_mem_nil _) h cs
  rwa [List.nil_append] at drop

/-- It is blanks that are dropped, on either side. -/
theorem exists_eq_append_strip (cs : List Char) :
    ∃ front back, (∀ c ∈ front, isBlank c = true) ∧ (∀ c ∈ back, isBlank c = true) ∧
      cs = front ++ (strip cs ++ back) := by
  have blank (cs : List Char) : ∀ c ∈ cs.takeWhile isBlank, isBlank c = true :=
    List.all_eq_true.1 List.all_takeWhile
  have behind : stripEnd (stripStart cs) ++ ((stripStart cs).reverse.takeWhile isBlank).reverse =
      stripStart cs := by
    rw [stripEnd, ← List.reverse_append, List.takeWhile_append_dropWhile, List.reverse_reverse]
  refine ⟨cs.takeWhile isBlank, ((stripStart cs).reverse.takeWhile isBlank).reverse, blank cs,
    fun c mem => blank _ c (List.mem_reverse.1 mem), ?_⟩
  rw [strip, behind]
  exact List.takeWhile_append_dropWhile.symm

/-- A second time nothing is left to drop. -/
@[simp] theorem strip_strip (cs : List Char) : strip (strip cs) = strip cs :=
  strip_eq_self (isStripped_strip cs)

/-- A text without the blanks around it. -/
def trim (s : String) : String :=
  String.ofList (strip s.toList)

/-- A string with nothing but blanks in it, the empty one included. -/
def isBlankText (s : String) : Bool :=
  (trim s).isEmpty

/-- The characters up to the first blank, and those behind that blank. -/
def splitWord (cs : List Char) : List Char × List Char :=
  (cs.takeWhile (!isBlank ·), (cs.dropWhile (!isBlank ·)).drop 1)

/-- A text is trimmed as its characters are stripped. -/
@[simp] theorem toList_trim (s : String) : (trim s).toList = strip s.toList := by
  simp [trim]

end Shortlink.Text

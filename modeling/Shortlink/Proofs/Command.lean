import Mathlib.Tactic.Lemma
import Shortlink.Command

/-!
# Typed lines

A line is a command word, a blank and an argument. Whatever blanks stand around the argument, and
whatever it looks like, the line asks for what its word says, with the argument between its blanks.
-/

namespace Shortlink

namespace Text

/-- There are no blanks left to be trimmed. -/
lemma trim_trim (s : String) : trim (trim s) = trim s := by
  rw [← String.toList_inj, toList_trim, toList_trim, strip_strip]

/-- A text is blank exactly if nothing but blanks is trimmed. -/
lemma isBlankText_trim (s : String) : isBlankText (trim s) = isBlankText s := by
  rw [isBlankText, trim_trim, isBlankText]

/-- Nothing is left of a text exactly if it is blank. -/
lemma isEmpty_strip (s : String) : (strip s.toList).isEmpty = isBlankText s := by
  rw [isBlankText, Bool.eq_iff_iff, List.isEmpty_iff, String.isEmpty_iff, ← String.toList_inj,
    toList_trim, String.toList_empty]

/-- A word is split off at the blank behind it. -/
lemma splitWord_append {word : List Char} (plain : ∀ c ∈ word, isBlank c = false)
    {rest : List Char} (stops : ∀ c ∈ rest.head?, isBlank c = true) :
    splitWord (word ++ rest) = (word, rest.drop 1) := by
  have own : ∀ c ∈ word, (!isBlank c) = true := fun c mem => by rw [plain c mem]; rfl
  rw [splitWord, List.takeWhile_append_of_pos own, List.dropWhile_append_of_pos own]
  cases rest with
  | nil => simp
  | cons c rest => simp [stops c rfl]

/-- A word with a blank and an argument behind it is taken apart into the two. -/
lemma splitWord_strip {word : List Char} (full : word ≠ [])
    (plain : ∀ c ∈ word, isBlank c = false) {b : Char} (blank : isBlank b = true)
    (arg : List Char) :
    ∃ rest, splitWord (strip (word ++ b :: arg)) = (word, rest) ∧ strip rest = strip arg := by
  obtain ⟨front, back, hfront, hback, split⟩ := exists_eq_append_strip arg
  by_cases none : strip arg = []
  · -- nothing but blanks stands behind the word
    have blanks : ∀ c ∈ b :: arg, isBlank c = true := by
      rw [split, none, List.nil_append]
      exact List.forall_mem_cons.2 ⟨blank, List.forall_mem_append.2 ⟨hfront, hback⟩⟩
    have alone : strip (word ++ b :: arg) = word ++ [] := by
      rw [strip_append_back blanks, List.append_nil, strip_eq_self]
      have own : IsStripped (word ++ []) := isStripped_append full plain (by simp)
      simpa using own
    refine ⟨[], ?_, none.symm⟩
    rw [alone, splitWord_append plain (by simp)]
    rfl
  · have kept : strip (word ++ b :: arg) = word ++ b :: (front ++ strip arg) := by
      have whole : word ++ b :: arg = word ++ b :: (front ++ strip arg) ++ back := by
        refine (congrArg (word ++ b :: ·) split).trans ?_
        simp
      rw [whole, strip_append_back hback]
      refine strip_eq_self (isStripped_append full plain fun c last => ?_)
      rw [← List.cons_append, List.getLast?_append,
        Option.or_of_isSome (List.getLast?_isSome.2 none)] at last
      exact (isStripped_strip arg).2 c last
    refine ⟨front ++ strip arg, ?_, ?_⟩
    · rw [kept, splitWord_append plain (by rintro c ⟨⟩; exact blank)]
      rfl
    · rw [strip_append_front hfront, strip_strip]

end Text

namespace Command

/-- A line with a word and an argument behind a space is read as these two. -/
lemma parse_typed {line : String} (word : List Char) (arg : String)
    (typed : line.toList = word ++ ' ' :: arg.toList) (full : word ≠ [])
    (plain : word.all (!Text.isBlank ·) = true) :
    parse line = ofWord (Text.strip line.toList) word (Text.trim arg).toList := by
  have blank : Text.isBlank ' ' = true := rfl
  obtain ⟨rest, split, same⟩ :=
    Text.splitWord_strip full (by simpa using plain) blank arg.toList
  rw [parse, typed, split, Text.toList_trim, ← same]

/-- A line to shorten a URL is read so, whatever the URL looks like. -/
lemma parse_shorten (url : String) : parse ("shorten " ++ url) = .shorten (Text.trim url) := by
  rw [parse_typed "shorten".toList url (by simp) (by decide) (by decide)]
  simp [ofWord, Text.trim]

/-- Without an argument it is the link on the panel that is meant. -/
lemma parse_delete (key : Key) :
    parse ("delete " ++ key) =
      .delete (if Text.isBlankText key then none else some (Text.trim key)) := by
  rw [parse_typed "delete".toList key (by simp) (by decide) (by decide)]
  simp [ofWord, Text.trim, Text.isEmpty_strip]

/-- A line to look a key up is read so, unless the key is blank. -/
lemma parse_resolve {key : Key} (full : Text.isBlankText key = false) :
    parse ("resolve " ++ key) = .resolve (Text.trim key) := by
  rw [parse_typed "resolve".toList key (by simp) (by decide) (by decide)]
  simp [ofWord, Text.trim, Text.isEmpty_strip, full]

end Command

end Shortlink

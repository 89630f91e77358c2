import Mathlib.Tactic.Lemma
import Shortlink.Text.Utf8.RoundTrip
import Shortlink.Url.Path

/-!
# Segments of dots

A text that is put into a path as a segment is encoded first, percent signs and slashes included. So
what comes out of it means the place where it stands, or the one above, only if the text itself was
one dot or two; a dot that is spelled with a percent sign is a text like any other.
-/

namespace Shortlink.Url

/-- A character comes into lower case as itself or from a capital. -/
lemma toLower_cases (c : Char) :
    c.toLower = c ∨
      97 ≤ c.toLower.toNat ∧ c.toLower.toNat ≤ 122 ∧ c.toNat + 32 = c.toLower.toNat := by
  delta Char.toLower
  split
  · next capital =>
    -- the capitals are the characters from 65 to 90, and 32 leads from each to its small letter
    have low : 65 ≤ c.toNat := UInt32.le_iff_toNat_le.1 capital.1
    have high : c.toNat ≤ 90 := UInt32.le_iff_toNat_le.1 capital.2
    have sum : (c.val + ('a'.val - 'A'.val)).toNat = c.toNat + 32 := by
      rw [UInt32.toNat_add]
      change (c.toNat + 32) % 2 ^ 32 = c.toNat + 32
      omega
    right
    change 97 ≤ (c.val + ('a'.val - 'A'.val)).toNat ∧ (c.val + ('a'.val - 'A'.val)).toNat ≤ 122 ∧
      c.toNat + 32 = (c.val + ('a'.val - 'A'.val)).toNat
    omega
  · exact .inl rfl

/-- A character whose small form is no letter is that form itself. -/
lemma eq_of_toLower {c d : Char} (h : c.toLower = d) (small : d.toNat < 97) : c = d := by
  rcases toLower_cases c with same | ⟨low, -, -⟩
  · exact same.symm.trans h
  · rw [h] at low
    omega

/-- The letter e is a digit in either case. -/
lemma digit?_of_toLower_e {c : Char} (h : c.toLower = 'e') : Text.Hex.digit? c = some 14 := by
  rcases toLower_cases c with same | ⟨-, -, sum⟩
  · rw [same.symm.trans h]
    rfl
  · rw [h] at sum
    have : c = 'E' := by
      rw [← Char.ofNat_toNat c, show c.toNat = 69 by change c.toNat + 32 = 101 at sum; omega]
    rw [this]
    rfl

/-- A dot that is spelled as it is stands for a dot. -/
lemma percentDecode_of_dot {e l : List Char} (h : e.map Char.toLower = '.' :: l) :
    ∃ rest, rest.map Char.toLower = l ∧ percentDecode e = 0x2E :: percentDecode rest := by
  obtain ⟨c, rest, rfl, dot, hr⟩ := List.map_eq_cons_iff.1 h
  obtain rfl := eq_of_toLower dot (by decide)
  exact ⟨rest, hr, percentDecode_cons (by decide) rest⟩

/-- A dot is decoded from its escape, in whatever case that is written. -/
lemma percentDecode_of_escape {e l : List Char} (h : e.map Char.toLower = '%' :: '2' :: 'e' :: l) :
    ∃ rest, rest.map Char.toLower = l ∧ percentDecode e = 0x2E :: percentDecode rest := by
  obtain ⟨c, e', rfl, percent, h⟩ := List.map_eq_cons_iff.1 h
  obtain ⟨a, e', rfl, two, h⟩ := List.map_eq_cons_iff.1 h
  obtain ⟨b, rest, rfl, fourteen, hr⟩ := List.map_eq_cons_iff.1 h
  obtain rfl := eq_of_toLower percent (by decide)
  obtain rfl := eq_of_toLower two (by decide)
  refine ⟨rest, hr, ?_⟩
  rw [percentDecode, show Text.Hex.digit? '2' = some 2 from rfl, digit?_of_toLower_e fourteen]
  rfl

/-- Nothing is decoded from nothing. -/
lemma percentDecode_of_nil {e : List Char} (h : e.map Char.toLower = []) :
    percentDecode e = [] := by
  rw [List.map_eq_nil_iff.1 h]
  rfl

/-- What means the place where it stands is a dot, however it is spelled. -/
lemma percentDecode_of_isSingleDot {e : List Char} (h : Path.isSingleDot e = true) :
    percentDecode e = [0x2E] := by
  rw [Path.isSingleDot, Bool.or_eq_true, decide_eq_true_eq, decide_eq_true_eq] at h
  rcases h with rfl | h
  · rfl
  · obtain ⟨rest, hr, first⟩ := percentDecode_of_escape h
    rw [first, percentDecode_of_nil hr]

/-- What means the place above is two dots, however they are spelled. -/
lemma percentDecode_of_isDoubleDot {e : List Char} (h : Path.isDoubleDot e = true) :
    percentDecode e = [0x2E, 0x2E] := by
  simp only [Path.isDoubleDot, List.any_cons, List.any_nil, Bool.or_false, Bool.or_eq_true,
    beq_iff_eq] at h
  rcases h with h | h | h | h
  · obtain ⟨rest, h, first⟩ := percentDecode_of_dot h.symm
    obtain ⟨rest, h, second⟩ := percentDecode_of_dot h
    rw [first, second, percentDecode_of_nil h]
  · obtain ⟨rest, h, first⟩ := percentDecode_of_dot h.symm
    obtain ⟨rest, h, second⟩ := percentDecode_of_escape h
    rw [first, second, percentDecode_of_nil h]
  · obtain ⟨rest, h, first⟩ := percentDecode_of_escape h.symm
    obtain ⟨rest, h, second⟩ := percentDecode_of_dot h
    rw [first, second, percentDecode_of_nil h]
  · obtain ⟨rest, h, first⟩ := percentDecode_of_escape h.symm
    obtain ⟨rest, h, second⟩ := percentDecode_of_escape h
    rw [first, second, percentDecode_of_nil h]

/-- Different texts have different bytes. -/
lemma encode_injective {cs ds : List Char} (h : Text.Utf8.encode cs = Text.Utf8.encode ds) :
    cs = ds := by
  have both := congrArg Text.Utf8.decode? h
  rw [Text.Utf8.decode?_encode, Text.Utf8.decode?_encode] at both
  exact Option.some.inj both

/-- The characters that are encoded in a segment. -/
def segmentSet (special : Bool) : EncodeSet :=
  if special then EncodeSet.specialSegment else EncodeSet.segment

/-- A segment is decoded into the bytes of its text. -/
lemma percentDecode_segment (special : Bool) (cs : List Char) :
    percentDecode (percentEncode (segmentSet special) cs) = Text.Utf8.encode cs :=
  percentDecode_percentEncode (by cases special <;> decide) cs

/-- Only a dot is encoded as the place where it stands. -/
lemma isSingleDot_segment (special : Bool) (cs : List Char) :
    Path.isSingleDot (percentEncode (segmentSet special) cs) = true ↔ cs = ['.'] := by
  constructor
  · intro h
    have bytes := percentDecode_of_isSingleDot h
    rw [percentDecode_segment] at bytes
    exact encode_injective bytes
  · rintro rfl
    cases special <;> decide

/-- Only two dots are encoded into a segment that means the place above. -/
lemma isDoubleDot_segment (special : Bool) (cs : List Char) :
    Path.isDoubleDot (percentEncode (segmentSet special) cs) = true ↔ cs = ['.', '.'] := by
  constructor
  · intro h
    have bytes := percentDecode_of_isDoubleDot h
    rw [percentDecode_segment] at bytes
    exact encode_injective bytes
  · rintro rfl
    cases special <;> decide

/-- Only the empty text is encoded into an empty segment. -/
lemma segment_eq_nil (special : Bool) (cs : List Char) :
    percentEncode (segmentSet special) cs = [] ↔ cs = [] := by
  constructor
  · intro h
    have bytes := percentDecode_segment special cs
    rw [h] at bytes
    exact encode_injective bytes.symm
  · rintro rfl
    rfl

/-- A text is encoded into a segment without a slash. -/
lemma slash_not_mem_segment (special : Bool) (cs : List Char) :
    '/' ∉ percentEncode (segmentSet special) cs := by
  intro mem
  rcases mem_percentEncode mem with slash | digit | ⟨-, own, -⟩
  · cases slash
  · exact absurd digit (by decide)
  · cases special <;> cases own

end Shortlink.Url

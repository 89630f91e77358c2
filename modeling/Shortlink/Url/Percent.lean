import Shortlink.Text.Hex
import Shortlink.Text.Utf8

/-!
# Percent-encoding

In each component of a URL certain characters may not stand as they are; they and all characters
beyond ASCII are written as the bytes of their UTF-8 form, each behind a percent sign. Decoding
gives bytes, and leaves a percent sign alone that no two digits follow. Where the percent sign
itself is encoded, decoding gives back the text, and an encoded text holds no character of the set
but percent signs and digits.
-/

namespace Shortlink.Url

/-- A set of ASCII characters that are encoded. -/
abbrev EncodeSet := Char → Bool

namespace EncodeSet

def controls : EncodeSet := fun c => c < ' ' || c == '\x7f'

def fragment : EncodeSet := fun c =>
  controls c || c == ' ' || c == '"' || c == '<' || c == '>' || c == '\x60'

def query : EncodeSet := fun c =>
  controls c || c == ' ' || c == '"' || c == '#' || c == '<' || c == '>'

/-- The characters encoded in the query of a special scheme. -/
def specialQuery : EncodeSet := fun c => query c || c == '\''

def path : EncodeSet := fun c =>
  fragment c || c == '#' || c == '?' || c == '{' || c == '}'

/-- The characters encoded in a segment that is put into a path as a whole. -/
def segment : EncodeSet := fun c => path c || c == '/' || c == '%'

/-- The same for a special scheme, where a backslash is a separator too. -/
def specialSegment : EncodeSet := fun c => segment c || c == '\\'

/-- The characters encoded in user name and password. -/
def userInfo : EncodeSet := fun c =>
  path c || c == '/' || c == ':' || c == ';' || c == '=' || c == '@' || c == '[' || c == '\\' ||
    c == ']' || c == '^' || c == '|'

end EncodeSet

/-- A byte as it is written behind the percent sign. -/
def percentByte (b : UInt8) : List Char :=
  ['%', Text.Hex.upperDigit (b.toNat / 16), Text.Hex.upperDigit (b.toNat % 16)]

/-- One character as it is written in a component. -/
def percentChar (set : EncodeSet) (c : Char) : List Char :=
  if set c || 0x80 ≤ c.toNat then (String.utf8EncodeChar c).flatMap percentByte else [c]

/-- A text as it is written in a component. -/
def percentEncode (set : EncodeSet) (cs : List Char) : List Char :=
  cs.flatMap (percentChar set)

/-- The bytes that a text stands for. -/
def percentDecode : List Char → List UInt8
  | '%' :: a :: b :: rest =>
    match Text.Hex.digit? a, Text.Hex.digit? b with
    | some high, some low => UInt8.ofNat (16 * high + low) :: percentDecode rest
    | _, _ => String.utf8EncodeChar '%' ++ percentDecode (a :: b :: rest)
  | c :: rest => String.utf8EncodeChar c ++ percentDecode rest
  | [] => []

/-- A byte behind a percent sign is read as that byte. -/
theorem percentDecode_percentByte (b : UInt8) (rest : List Char) :
    percentDecode (percentByte b ++ rest) = b :: percentDecode rest := by
  have high := Text.Hex.digit?_upperDigit (n := b.toNat / 16) (by have := b.toNat_lt; omega)
  have low := Text.Hex.digit?_upperDigit (n := b.toNat % 16) (by omega)
  simp only [percentByte, List.cons_append, List.nil_append, percentDecode, high, low]
  rw [show 16 * (b.toNat / 16) + b.toNat % 16 = b.toNat by omega, UInt8.ofNat_toNat]

/-- Bytes behind percent signs are read as those bytes. -/
theorem percentDecode_flatMap (bytes : List UInt8) (rest : List Char) :
    percentDecode (bytes.flatMap percentByte ++ rest) = bytes ++ percentDecode rest := by
  induction bytes with
  | nil => rfl
  | cons b bytes ih =>
    rw [List.flatMap_cons, List.append_assoc, percentDecode_percentByte, ih, List.cons_append]

/-- A character that is no percent sign stands for its own bytes. -/
theorem percentDecode_cons {c : Char} (h : c ≠ '%') (rest : List Char) :
    percentDecode (c :: rest) = String.utf8EncodeChar c ++ percentDecode rest := by
  rw [percentDecode.eq_def]
  split <;> simp_all

/-- Where the percent sign is encoded too, decoding gives back the text. -/
theorem percentDecode_percentEncode {set : EncodeSet} (h : set '%' = true) (cs : List Char) :
    percentDecode (percentEncode set cs) = Text.Utf8.encode cs := by
  induction cs with
  | nil => rfl
  | cons c cs ih =>
    rw [percentEncode, List.flatMap_cons, ← percentEncode, Text.Utf8.encode, List.flatMap_cons,
      ← Text.Utf8.encode, ← ih, percentChar]
    split
    · exact percentDecode_flatMap _ _
    · next hc =>
      have : c ≠ '%' := by
        rintro rfl
        simp [h] at hc
      exact percentDecode_cons this _

/-- What an encoded text consists of: percent signs, digits, and characters of its own that may
stand as they are. -/
theorem mem_percentEncode {set : EncodeSet} {cs : List Char} {c : Char}
    (hc : c ∈ percentEncode set cs) :
    c = '%' ∨ c ∈ "0123456789ABCDEF".toList ∨ c ∈ cs ∧ set c = false ∧ c.toNat < 0x80 := by
  have upper (n : Nat) (h : n < 16) : Text.Hex.upperDigit n ∈ "0123456789ABCDEF".toList := by
    have all : ∀ m ∈ List.range 16, Text.Hex.upperDigit m ∈ "0123456789ABCDEF".toList := by decide
    exact all n (List.mem_range.mpr h)
  obtain ⟨d, hd, hc⟩ := List.mem_flatMap.1 hc
  rw [percentChar] at hc
  split at hc
  · obtain ⟨b, -, hc⟩ := List.mem_flatMap.1 hc
    simp only [percentByte, List.mem_cons, List.not_mem_nil, or_false] at hc
    rcases hc with rfl | rfl | rfl
    · exact .inl rfl
    · exact .inr (.inl (upper _ (by have := b.toNat_lt; omega)))
    · exact .inr (.inl (upper _ (by omega)))
  · next own =>
    obtain rfl := List.mem_singleton.1 hc
    simp only [Bool.or_eq_true, decide_eq_true_eq, not_or, Bool.not_eq_true] at own
    exact .inr (.inr ⟨hd, own.1, by omega⟩)

end Shortlink.Url

/-!
# UTF-8

Text as bytes and back. `symbols` cuts a sequence of bytes into characters and ill-formed parts, a
part being the longest start of a character that the bytes allow, or a single byte where they allow
none. Strict decoding refuses a sequence that has such a part; lenient decoding writes U+FFFD for
each.
-/

namespace Shortlink.Text.Utf8

/-- The bytes of a text. -/
def encode (cs : List Char) : List UInt8 :=
  cs.flatMap String.utf8EncodeChar

/-- How many bytes a text has. -/
def size (cs : List Char) : Nat :=
  cs.foldr (fun c n => c.utf8Size + n) 0

/-- Whether a byte can only go on with a character. -/
def isTail (b : UInt8) : Bool :=
  0x80 ≤ b && b ≤ 0xBF

/-- The bytes that may follow the first byte of a longer character: overlong forms, surrogates and
values past U+10FFFF are ruled out by the second byte. -/
def isSecond (first b : UInt8) : Bool :=
  if first == 0xE0 then 0xA0 ≤ b && b ≤ 0xBF
  else if first == 0xED then 0x80 ≤ b && b ≤ 0x9F
  else if first == 0xF0 then 0x90 ≤ b && b ≤ 0xBF
  else if first == 0xF4 then 0x80 ≤ b && b ≤ 0x8F
  else isTail b

/-- The bits that such a byte adds. -/
def tailBits (b : UInt8) : Nat :=
  b.toNat % 64

/-- What stands at the front of `b :: rest`: a character or an ill-formed part, and how many bytes
of `rest` belong to it. -/
def lead (b : UInt8) (rest : List UInt8) : Option Char × Nat :=
  if b < 0x80 then (some (Char.ofNat b.toNat), 0)
  else if 0xC2 ≤ b && b ≤ 0xDF then
    match rest with
    | c :: _ =>
      if isTail c then (some (Char.ofNat (b.toNat % 32 * 64 + tailBits c)), 1) else (none, 0)
    | [] => (none, 0)
  else if 0xE0 ≤ b && b ≤ 0xEF then
    match rest with
    | c :: d :: _ =>
      if isSecond b c then
        if isTail d then
          (some (Char.ofNat ((b.toNat % 16 * 64 + tailBits c) * 64 + tailBits d)), 2)
        else (none, 1)
      else (none, 0)
    | [c] => (none, if isSecond b c then 1 else 0)
    | [] => (none, 0)
  else if 0xF0 ≤ b && b ≤ 0xF4 then
    match rest with
    | c :: d :: e :: _ =>
      if isSecond b c then
        if isTail d then
          if isTail e then
            (some (Char.ofNat
              (((b.toNat % 8 * 64 + tailBits c) * 64 + tailBits d) * 64 + tailBits e)), 3)
          else (none, 2)
        else (none, 1)
      else (none, 0)
    | [c, d] => (none, if isSecond b c then if isTail d then 2 else 1 else 0)
    | [c] => (none, if isSecond b c then 1 else 0)
    | [] => (none, 0)
  else (none, 0)

/-- The symbols of a sequence whose first `skip` bytes are already taken. -/
def symbolsFrom : (skip : Nat) → List UInt8 → List (Option Char)
  | _, [] => []
  | skip + 1, _ :: rest => symbolsFrom skip rest
  | 0, b :: rest => (lead b rest).1 :: symbolsFrom (lead b rest).2 rest

/-- The characters of a sequence of bytes, `none` standing for an ill-formed part. -/
def symbols (bytes : List UInt8) : List (Option Char) :=
  symbolsFrom 0 bytes

/-- The text that the bytes spell, if they are well formed. -/
def decode? (bytes : List UInt8) : Option (List Char) :=
  (symbols bytes).mapM id

/-- The text that the bytes spell, with U+FFFD for every ill-formed part. -/
def decodeLossy (bytes : List UInt8) : List Char :=
  (symbols bytes).map (·.getD '\uFFFD')

/-- The bytes of the lenient text at which something ill-formed stands, for symbols that stand at a
byte. -/
def gapsFrom (start : Nat) : List (Option Char) → List Nat
  | [] => []
  | some c :: rest => gapsFrom (start + c.utf8Size) rest
  | none :: rest => start :: gapsFrom (start + '\uFFFD'.utf8Size) rest

/-- Where in the lenient text every ill-formed part stands. -/
def gaps (bytes : List UInt8) : List Nat :=
  gapsFrom 0 (symbols bytes)

end Shortlink.Text.Utf8

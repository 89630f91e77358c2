import Shortlink.Text.Pieces
import Shortlink.Url.Percent
import Shortlink.Url.Punycode

/-!
# Hosts

The host of a URL in its serialised form. A special scheme has a domain, an IPv4 address, which may
be written in fewer parts and in other bases, or an IPv6 address in brackets. Other schemes have
opaque hosts, or an IPv6 address. Domains are written in ASCII, where their labels may stand for
other text. What becomes of such text rests on tables of all characters, which are given from
outside as `DomainRules`.
-/

namespace Shortlink.Url

/-- Why a text is no URL. -/
inductive ParseError
  | relativeWithoutBase
  | emptyHost
  | invalidPort
  | invalidDomain
  | invalidIpv4
  | invalidIpv6
  | invalidHostCharacter
deriving DecidableEq, Repr

def ParseError.message : ParseError → String
  | .relativeWithoutBase => "relative URL without a base"
  | .emptyHost => "empty host"
  | .invalidPort => "invalid port number"
  | .invalidDomain => "invalid international domain name"
  | .invalidIpv4 => "invalid IPv4 address"
  | .invalidIpv6 => "invalid IPv6 address"
  | .invalidHostCharacter => "invalid domain character"

/-! ## IPv4 -/

/-- The value of digits in a base, if all of them belong to it. -/
def ofDigits? (base : Nat) (cs : List Char) : Option Nat :=
  cs.foldlM (fun n c => do
    let d ← Text.Hex.digit? c
    if d < base then some (n * base + d) else none) 0

/-- A part of an IPv4 address: hexadecimal behind `0x`, octal behind `0`, and decimal elsewhere. -/
def ipv4Part? (cs : List Char) : Option Nat :=
  match cs with
  | [] => none
  | ['0'] => some 0
  | '0' :: 'x' :: rest => ofDigits? 16 rest
  | '0' :: 'X' :: rest => ofDigits? 16 rest
  | '0' :: rest => ofDigits? 8 rest
  | cs => ofDigits? 10 cs

/-- The parts of a dotted text, without the empty one behind a dot at the end. -/
def dottedParts (cs : List Char) : List (List Char) :=
  let parts := Text.pieces (· == '.') cs
  if parts.getLast? = some [] ∧ parts.length ≠ 1 then parts.dropLast else parts

/-- Whether a domain has to be an IPv4 address: its last part is a number. -/
def endsInNumber (domain : List Char) : Bool :=
  match (dottedParts domain).getLast? with
  | some last => (!last.isEmpty && last.all Char.isDigit) || (ipv4Part? last).isSome
  | none => false

/-- The four bytes of an IPv4 address in dotted form. -/
def ipv4Text (n : Nat) : List Char :=
  let part (shift : Nat) : List Char := Nat.toDigits 10 (n / Nat.pow 2 shift % 256)
  part 24 ++ '.' :: part 16 ++ '.' :: part 8 ++ '.' :: part 0

/-- The address of up to four parts, of which the last fills all the bytes that remain. -/
def ipv4? (domain : List Char) : Option Nat := do
  let parts := dottedParts domain
  if parts.length > 4 then none
  else
    let numbers ← parts.mapM ipv4Part?
    let last ← numbers.getLast?
    let front := numbers.dropLast
    if last < Nat.pow 256 (4 - front.length) ∧ front.all (· < 256) then
      some (front.zipIdx.foldr (fun (n, i) rest => n * Nat.pow 256 (3 - i) + rest) last)
    else none

/-! ## IPv6 -/

/-- The number of up to four hexadecimal digits. -/
def ipv6Group? (cs : List Char) : Option Nat :=
  if 1 ≤ cs.length ∧ cs.length ≤ 4 then ofDigits? 16 cs else none

/-- A byte in decimal digits without leading zeros. -/
def decimalByte? (cs : List Char) : Option Nat :=
  match cs with
  | [] => none
  | ['0'] => some 0
  | '0' :: _ => none
  | cs => (ofDigits? 10 cs).bind fun n => if n < 256 then some n else none

/-- An IPv4 address at the end of an IPv6 address, as two groups. -/
def ipv6Tail? (cs : List Char) : Option (List Nat) := do
  match ← (Text.pieces (· == '.') cs).mapM decimalByte? with
  | [a, b, c, d] => some [a * 256 + b, c * 256 + d]
  | _ => none

/-- Groups between colons. Only the last ones of an address may be an IPv4 address. -/
def ipv6Groups? (last : Bool) : List (List Char) → Option (List Nat)
  | [] => some []
  | [piece] =>
    match ipv6Group? piece with
    | some n => some [n]
    | none => if last then ipv6Tail? piece else none
  | piece :: pieces => do return (← ipv6Group? piece) :: (← ipv6Groups? last pieces)

/-- The groups of a part of an address that may be empty. -/
def ipv6Side? (last : Bool) (cs : List Char) : Option (List Nat) :=
  if cs.isEmpty then some [] else ipv6Groups? last (Text.pieces (· == ':') cs)

/-- The text in front of the first `::` and the text behind it. -/
def splitDoubleColon : List Char → Option (List Char × List Char)
  | ':' :: ':' :: rest => some ([], rest)
  | c :: rest => (splitDoubleColon rest).map fun (front, back) => (c :: front, back)
  | [] => none

/-- The eight groups of an IPv6 address; `::` stands for one or more that are zero. -/
def ipv6? (cs : List Char) : Option (List Nat) :=
  match splitDoubleColon cs with
  | none => do
    let groups ← ipv6Side? true cs
    if groups.length = 8 then some groups else none
  | some (front, back) => do
    let front ← ipv6Side? false front
    let back ← ipv6Side? true back
    let given := front.length + back.length
    if given ≤ 7 then some (front ++ List.replicate (8 - given) 0 ++ back) else none

/-- How many groups in front are zero. -/
def zeroRun (groups : List Nat) : Nat := (groups.takeWhile (· == 0)).length

/-- The first of the longest runs of zeros, if it has at least two groups: its start and length. -/
def longestZeroRun (groups : List Nat) : Option (Nat × Nat) :=
  let runs := (List.range 8).map fun i => (i, zeroRun (groups.drop i))
  let best := runs.foldl (fun acc r => if acc.2 < r.2 then r else acc) (0, 0)
  if 2 ≤ best.2 then some best else none

/-- Groups with colons between them. -/
def groupsText (groups : List Nat) : List Char :=
  List.intercalate [':'] (groups.map (Nat.toDigits 16))

/-- An IPv6 address as it is written: the longest run of zeros is left out. -/
def ipv6Text (groups : List Nat) : List Char :=
  let inner :=
    match longestZeroRun groups with
    | none => groupsText groups
    | some (start, length) =>
      groupsText (groups.take start) ++ [':', ':'] ++ groupsText (groups.drop (start + length))
  '[' :: inner ++ [']']

/-- An IPv6 address in brackets. -/
def bracketed (cs : List Char) : Except ParseError (List Char) :=
  if cs.getLast? = some ']' then
    match ipv6? ((cs.drop 1).dropLast) with
    | some groups => .ok (ipv6Text groups)
    | none => .error .invalidIpv6
  else .error .invalidIpv6

/-! ## Domains and opaque hosts -/

/-- The ASCII characters that no domain may have. -/
def isForbiddenInDomain (c : Char) : Bool :=
  c ≤ ' ' || c == '\x7f' || "%#/:<>?@[\\]^|".toList.contains c

def isAscii (c : Char) : Bool := c.toNat < 0x80

/-- The text that the label of a domain in lower case stands for, by what is behind `xn--`. -/
def encodedLabel? : List Char → Option (List Char)
  | 'x' :: 'n' :: '-' :: '-' :: rest => some rest
  | _ => none

/-- The rules for domains that are more than ASCII: which texts beyond ASCII are domains, what they
are written as, and which labels behind `xn--` stand for such a text. -/
class DomainRules where
  /-- The domain in ASCII, if there is one. -/
  ascii? (domain : List Char) : Option (List Char)

/-- The rules where no tables are at hand: no text beyond ASCII is a domain, and a label behind
`xn--` is taken as it is if it stands for some such text. -/
instance DomainRules.withoutTables : DomainRules where
  ascii? domain :=
    let lower := domain.map Char.toLower
    let isLabel (label : List Char) : Bool := (encodedLabel? label).all Punycode.isEncoded
    if domain.all isAscii && (Text.pieces (· == '.') lower).all isLabel then some lower else none

/-- A domain as it is written in ASCII. One that is plain ASCII is only put into lower case. -/
def asciiDomain? [DomainRules] (domain : List Char) : Option (List Char) :=
  let lower := domain.map Char.toLower
  let isPlain (label : List Char) : Bool := (encodedLabel? label).isNone
  if domain.all isAscii && (Text.pieces (· == '.') lower).all isPlain then some lower
  else DomainRules.ascii? domain

/-- The domain that a text is, once its escapes are decoded. -/
def domain? [DomainRules] (cs : List Char) : Option (List Char) := do
  let domain ← asciiDomain? (← Text.Utf8.decode? (percentDecode cs))
  if domain.any fun c => isForbiddenInDomain c || !isAscii c then none else some domain

/-- The host of a special scheme. -/
def specialHost [DomainRules] (cs : List Char) : Except ParseError (List Char) :=
  if cs.head? = some '[' then bracketed cs
  else
    match domain? cs with
    | none => .error .invalidDomain
    | some [] => .error .emptyHost
    | some domain =>
      if endsInNumber domain then
        match ipv4? domain with
        | some n => .ok (ipv4Text n)
        | none => .error .invalidIpv4
      else .ok domain

/-- The characters that no opaque host may have. -/
def isForbiddenInHost (c : Char) : Bool :=
  c == '\x00' || c == '\t' || c == '\n' || c == '\r' || " #/:<>?@[\\]^|".toList.contains c

/-- The host of any other scheme. -/
def opaqueHost (cs : List Char) : Except ParseError (List Char) :=
  if cs.head? = some '[' then bracketed cs
  else if cs.any isForbiddenInHost then .error .invalidHostCharacter
  else .ok (percentEncode EncodeSet.controls cs)

end Shortlink.Url

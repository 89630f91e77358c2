import Shortlink.Proofs.Json.Grammar
import Shortlink.Proofs.Text.Breaks
import Shortlink.Json.Record

/-!
# Line feeds and JSON

A value that is written in compact form stays on one line, and so does every message about a text
that cannot be read as a record: a text that a message repeats is quoted.
-/

namespace Shortlink.Json

open Text

/-! ## What is written -/

/-- A character of a string is never written as a line feed. -/
lemma not_mem_writeChar (c : Char) : '\n' ∉ writeChar c := by
  have digit (n : Nat) : '\n' ≠ Text.Hex.lowerDigit n := (digitChar_ne n).symm
  have written := written_writeChar c
  generalize writeChar c = w at written
  cases written with
  | @escape x named _ =>
    intro mem
    obtain bad | rfl : '\n' = '\\' ∨ '\n' = x := by simpa using mem
    · contradiction
    · cases named
  | unit _ => simp [digit]
  | plain _ _ shown =>
    intro mem
    rw [← List.mem_singleton.1 mem] at shown
    exact shown (by decide)

/-- A string is written on one line. -/
lemma not_mem_writeString (s : String) : '\n' ∉ writeString s := by
  simp [writeString, not_mem_writeChar]

/-- A number is written on one line. -/
lemma Number.not_mem_write (n : Number) : '\n' ∉ n.write := by
  cases n with
  | integer i =>
    have digits := not_mem_toDigits (b := 10) (by decide) i.natAbs
    rw [write, writeInt]
    split
    · simpa using digits
    · exact digits
  | float x => exact Decimal.Style.unbroken_text (by decide) x

namespace Value

mutual

/-- A value is written on one line. -/
lemma not_mem_write : ∀ v : Value, '\n' ∉ v.write
  | .null | .boolean true | .boolean false => by decide
  | .number n => n.not_mem_write
  | .string s => not_mem_writeString s
  | .array items => by simpa [write] using not_mem_writeItems true items
  | .object members => by simpa [write] using not_mem_writeMembers true members

/-- The items of an array are written on one line. -/
lemma not_mem_writeItems (first : Bool) : ∀ items : List Value, '\n' ∉ writeItems first items
  | [] => by simp [writeItems]
  | v :: rest => by
    have own := not_mem_write v
    have others := not_mem_writeItems false rest
    cases first <;> simp [writeItems, own, others]

/-- The members of an object are written on one line. -/
lemma not_mem_writeMembers (first : Bool) :
    ∀ members : List (String × Value), '\n' ∉ writeMembers first members
  | [] => by simp [writeMembers]
  | (name, v) :: rest => by
    have named := not_mem_writeString name
    have own := not_mem_write v
    have others := not_mem_writeMembers false rest
    cases first <;> simp [writeMembers, named, own, others]

end

/-- The text of a value is one line. -/
lemma unbroken_text (v : Value) : Unbroken v.text := unbroken_ofList.2 v.not_mem_write

end Value

/-! ## What is wrong with a token -/

/-- A result is of this kind, or an error is of that one. -/
def Ends {ε α : Type} (E : ε → Prop) (Q : α → Prop) : Except ε α → Prop
  | .ok x => Q x
  | .error e => E e

/-- A function of the result carries its kind along and leaves errors as they are. -/
lemma Ends.map {ε α β : Type} {E : ε → Prop} {Q : α → Prop} {Q' : β → Prop} {x : Except ε α}
    {f : α → β} (h : Ends E Q x) (hf : ∀ a, Q a → Q' (f a)) : Ends E Q' (x.map f) := by
  cases x with
  | ok a => exact hf a h
  | error e => exact h

/-- Two steps end as the second one does from any result of the first. -/
lemma Ends.bind {ε α β : Type} {E : ε → Prop} {Q : α → Prop} {Q' : β → Prop} {x : Except ε α}
    {f : α → Except ε β} (h : Ends E Q x) (hf : ∀ a, Q a → Ends E Q' (f a)) :
    Ends E Q' (x >>= f) := by
  cases x with
  | ok a => exact hf a h
  | error e => exact h

/-- A fault lies in the text itself and not in what a value is. -/
def Fault.isTextual : Fault → Bool
  | .mismatch _ => false
  | _ => true

/-- The message of a fault in the text itself is one line. -/
lemma Fault.unbroken_of_isTextual {f : Fault} (h : f.isTextual = true) : Unbroken f.message := by
  cases f with
  | mismatch m => cases h
  | _ => decide

/-- Where something cannot be read, the slip lies in the text itself. -/
abbrev Slips {α : Type} (r : Except Slip α) : Prop :=
  Ends (fun slip => slip.fault.isTextual = true) (fun _ => True) r

/-- What is wrong with a character by number lies in the text itself. -/
lemma unitSlip_isTextual (offset : Nat) (cs : List Char) :
    (unitSlip offset cs).fault.isTextual = true := by
  rw [unitSlip]
  split <;> rfl

/-- A function of the result leaves the slips as they are. -/
lemma slips_map {α β : Type} {f : α → β} {r : Except Slip α} (h : Slips r) : Slips (r.map f) :=
  Ends.map h fun _ _ => trivial

/-- The slips in a string literal that is read lie in the text itself. -/
lemma slips_readBody (offset : Nat) (cs : List Char) : Slips (readBody offset cs) := by
  fun_induction readBody offset cs with
  | case2 => exact trivial
  -- a character is read, and what follows it decides
  | case9 | case14 | case16 | case19 => exact slips_map ‹_›
  | case4 | case8 | case11 | case15 => exact unitSlip_isTextual _ _
  | _ => exact rfl

/-- The slips in a string literal that is passed over lie in the text itself. -/
lemma slips_skipBody (offset : Nat) (cs : List Char) : Slips (skipBody offset cs) := by
  fun_induction skipBody offset cs with
  | case2 => exact trivial
  | case5 | case7 | case10 => assumption
  | case4 | case6 => exact unitSlip_isTextual _ _
  | _ => exact rfl

/-- The slips in a word of the format lie in the text itself. -/
lemma slips_skipWord (offset : Nat) (word cs : List Char) : Slips (skipWord offset word cs) := by
  fun_induction skipWord offset word cs with
  | case1 => exact trivial
  | case3 => assumption
  | case2 | case4 => exact rfl

namespace Numeral

/-- The slips in the whole part of a number lie in the text itself. -/
lemma slips_scanWhole (offset : Nat) (cs : List Char) : Slips (scanWhole offset cs) := by
  fun_cases scanWhole offset cs with
  | case1 | case2 | case6 => exact rfl
  | _ => exact trivial

/-- The slips in the fraction of a number lie in the text itself. -/
lemma slips_scanFraction (offset : Nat) (cs : List Char) : Slips (scanFraction offset cs) := by
  fun_cases scanFraction offset cs with
  | case1 | case3 => exact rfl
  | _ => exact trivial

/-- The slips in the digits of an exponent lie in the text itself. -/
lemma slips_scanExponentDigits (offset : Nat) (negative : Bool) (cs : List Char) :
    Slips (scanExponentDigits offset negative cs) := by
  fun_cases scanExponentDigits offset negative cs with
  | case1 | case3 => exact rfl
  | case2 => exact trivial

/-- The slips in the exponent of a number lie in the text itself. -/
lemma slips_scanExponent (offset : Nat) (cs : List Char) : Slips (scanExponent offset cs) := by
  fun_cases scanExponent offset cs with
  | case4 | case5 => exact trivial
  | _ => exact slips_scanExponentDigits _ _ _

/-- The slips in a numeral lie in the text itself. -/
lemma slips_scan (cs : List Char) : Slips (scan cs) := by
  have unsigned (offset : Nat) (negative : Bool) (cs : List Char) :
      Slips (scanUnsigned offset negative cs) := by
    apply Ends.bind (slips_scanWhole offset cs)
    rintro ⟨whole, rest⟩ -
    apply Ends.bind (slips_scanFraction _ rest)
    rintro ⟨fraction, rest⟩ -
    apply Ends.bind (slips_scanExponent _ rest)
    rintro ⟨exponent, rest⟩ -
    exact trivial
  fun_cases scan cs <;> exact unsigned _ _ _

/-- A float that is out of range is a slip of the text itself. -/
lemma slips_float (n : Numeral) (length mark digits : Nat) (point : Int) :
    Slips (n.float length mark digits point) := by
  rw [float]
  dsimp only
  -- the exponent may be missing or too large, and so may the number
  split
  · split
    · exact trivial
    · exact rfl
  · split
    · split
      · exact trivial
      · exact rfl
    · split
      · exact rfl
      · exact trivial

/-- A numeral without a value is a slip of the text itself. -/
lemma slips_value (n : Numeral) (length : Nat) : Slips (n.value length) := by
  rw [value]
  split
  split
  · split
    · exact trivial
    · split
      · exact trivial
      · exact slips_float n length 0 _ 0
  · exact slips_float n length _ _ _

end Numeral

/-- The slips of a token are none about what its value is. -/
def Token.IsTextual : Token → Prop
  | .number value skipped => Slips value ∧ ∀ slip ∈ skipped, slip.fault.isTextual = true
  | .string value skipped => Slips value ∧ ∀ slip ∈ skipped, slip.fault.isTextual = true
  | .stray slip => slip.fault.isTextual = true
  | _ => True

/-- The slips of a string token lie in the text itself. -/
lemma isTextual_scanString (rest : List Char) : (scanString rest).1.IsTextual := by
  have value := slips_readBody 1 rest
  have skipped := slips_skipBody 1 rest
  rw [scanString]
  split
  · exact ⟨slips_map value, fun _ none => by cases none⟩
  · next e =>
    rw [e] at skipped
    exact ⟨slips_map value, fun _ same => Option.mem_some.1 same ▸ skipped⟩

/-- A slip keeps its kind when the number is only passed over. -/
lemma skippingSlip_isTextual {slip : Slip} (h : slip.fault.isTextual = true) :
    (skippingSlip slip).fault.isTextual = true := by
  rw [skippingSlip]
  split
  · rfl
  · exact h

/-- The slips of a number token lie in the text itself. -/
lemma isTextual_scanNumber (cs : List Char) : (scanNumber cs).1.IsTextual := by
  have scanned := Numeral.slips_scan cs
  rw [scanNumber]
  split
  · exact ⟨Numeral.slips_value _ _, fun _ none => by cases none⟩
  · next e =>
    rw [e] at scanned
    exact ⟨scanned, fun _ same => Option.mem_some.1 same ▸ skippingSlip_isTextual scanned⟩

/-- The slips of a word of the format lie in the text itself. -/
lemma isTextual_scanWord (word : List Char) {t : Token} (h : t.IsTextual) (rest : List Char) :
    (scanWord word t rest).1.IsTextual := by
  have skipped := slips_skipWord 1 word rest
  rw [scanWord]
  split
  · exact h
  · next e =>
    rw [e] at skipped
    exact skipped

/-- The slips of a token lie in the text itself, whatever the token begins with. -/
lemma isTextual_scanToken (c : Char) (rest : List Char) : (scanToken c rest).1.IsTextual := by
  fun_cases scanToken c rest with
  | case7 => exact isTextual_scanString rest
  | case8 | case9 | case10 => exact isTextual_scanWord _ (by trivial) rest
  | case11 => exact isTextual_scanNumber _
  | case12 => exact rfl
  -- a mark has no slips
  | _ => exact trivial

/-- The slips of the tokens behind any place lie in the text itself. -/
lemma isTextual_lexFrom (start skip : Nat) (cs : List Char) :
    ∀ l ∈ lexFrom start skip cs, l.token.IsTextual := by
  fun_induction lexFrom start skip cs with
  | case1 => exact List.forall_mem_nil _
  | case2 | case3 => assumption
  | case4 start c rest _ t scanned =>
    have own := isTextual_scanToken c rest
    rw [scanned] at own
    exact List.forall_mem_singleton.2 own
  | case5 start c rest _ t after scanned used stop ih =>
    have own := isTextual_scanToken c rest
    rw [scanned] at own
    exact List.forall_mem_cons.2 ⟨own, ih⟩

/-- All tokens are of this kind. -/
def Textual (ts : List Token) : Prop := ∀ t ∈ ts, t.IsTextual

/-- The slips of the tokens of a text lie in the text itself. -/
lemma textual_tokens (text : List Char) : Textual (tokens text) := by
  intro t mem
  obtain ⟨l, hl, rfl⟩ := List.mem_map.1 mem
  exact isTextual_lexFrom 0 0 text l hl

/-! ## What is wrong with a value -/

/-- What is read is of this kind, or the message about the place where reading stopped is on one
line. -/
abbrev Reads {α : Type} (Q : α → Prop) (r : Except Stop α) : Prop :=
  Ends (fun stop => Unbroken stop.fault.message) Q r

/-- A reader leaves such tokens as it finds. -/
abbrev Leaves {α : Type} (r : Reading α) : Prop := Reads (fun x => Textual x.2) r

/-- The first of such tokens is of their kind. -/
lemma Textual.head {t : Token} {ts : List Token} (h : Textual (t :: ts)) : t.IsTextual :=
  (List.forall_mem_cons.1 h).1

/-- The tokens behind the first are of that kind too. -/
lemma Textual.tail {t : Token} {ts : List Token} (h : Textual (t :: ts)) : Textual ts :=
  (List.forall_mem_cons.1 h).2

/-- Where reading stops at a fault in the text itself, the message is one line. -/
lemma reads_error {α : Type} {Q : α → Prop} {stop : Stop} (h : stop.fault.isTextual = true) :
    Reads Q (.error stop) := Fault.unbroken_of_isTextual h

/-- Where no value begins, the message is one line. -/
lemma leaves_noValue {α : Type} {ts : List Token} (h : Textual ts) :
    Leaves (noValue ts : Reading α) := by
  fun_cases noValue (α := α) ts with
  | case2 slip _ => exact reads_error h.head
  | case1 | case3 => exact reads_error rfl

/-- The name of a member is read, or the message is one line. -/
lemma leaves_readName {ts : List Token} (h : Textual ts) : Leaves (readName ts) := by
  fun_cases readName ts with
  | case1 => exact h.tail
  | case2 slip _ _ => exact reads_error h.head.1
  | case3 => exact reads_error rfl

/-- The colon behind a name is read, or the message is one line. -/
lemma reads_readColon {ts : List Token} (h : Textual ts) : Reads Textual (readColon ts) := by
  fun_cases readColon ts with
  | case1 => exact h.tail
  | case2 | case3 => exact reads_error rfl

/-! ### What is passed over -/

/-- A token in the place of a value is passed over, or the message is one line. -/
lemma reads_passValue {opened : List Bracket} {t : Token} {ts : List Token} (h : t.IsTextual) :
    Reads (fun _ => True) (passValue opened t ts) := by
  fun_cases passValue opened t ts with
  | case5 | case6 => exact reads_error (h.2 _ rfl)
  | case7 => exact reads_error h
  | case10 => exact reads_error rfl
  | _ => exact trivial

/-- A token in the place of a name is passed over, or the message is one line. -/
lemma reads_passName {opened : List Bracket} {t : Token} {ts : List Token} (h : t.IsTextual) :
    Reads (fun _ => True) (passName opened t ts) := by
  fun_cases passName opened t ts with
  | case1 => exact trivial
  | case2 => exact reads_error (h.2 _ rfl)
  | case3 => exact reads_error rfl

/-- A token is passed over wherever it stands, or the message is one line. -/
lemma reads_pass {want : Want} {opened : List Bracket} {t : Token} {ts : List Token}
    (h : t.IsTextual) : Reads (fun _ => True) (pass want opened t ts) := by
  fun_cases pass want opened t ts with
  | case1 | case6 => exact reads_passValue h
  | case2 | case7 => exact reads_passName h
  | case4 => exact reads_error rfl
  | case10 =>
    rename_i b _ _ _
    exact reads_error (by cases b <;> rfl)
  | _ => exact trivial

/-- A value is passed over, or the message is one line. -/
lemma reads_skip {opened : List Bracket} {want : Want} {ts : List Token} (h : Textual ts) :
    Reads Textual (skip opened want ts) := by
  fun_induction skip opened want ts with
  | case1 ts => exact h
  | case2 opened want =>
    refine reads_error ?_
    cases want <;> cases opened.headD .array <;> rfl
  | case3 opened want t rest _ ih =>
    apply Ends.bind (reads_pass h.head)
    rintro ⟨opened, want⟩ -
    exact ih opened want h.tail

/-! ### Records -/

/-- A number is called by a name on one line. -/
lemma unbroken_found (n : Number) : Unbroken n.found.text := by
  cases n with
  | integer i =>
    exact unbroken_append.2 ⟨unbroken_append.2 ⟨by decide, unbroken_int i⟩, by decide⟩
  | float x =>
    have text := Decimal.Style.unbroken_text (s := Decimal.compactStyle) (by decide) x
    exact unbroken_append.2 ⟨unbroken_append.2 ⟨by decide, text⟩, by decide⟩

/-- A string is called by a name on one line, whatever is in it. -/
lemma unbroken_string (s : String) : Unbroken (Found.string s).text :=
  unbroken_append.2 ⟨by decide, unbroken_quoted s⟩

/-- The message about a value of another type is one line. -/
lemma leaves_wrongType {α : Type} {expected : String} (plain : Unbroken expected)
    {ts : List Token} (h : Textual ts) : Leaves (wrongType expected ts : Reading α) := by
  have mismatch {f : Found} (own : Unbroken f.text) (left : Nat) (place : Place) :
      Leaves (.error ⟨.mismatch (.invalidType f expected), left, place⟩ : Reading α) := by
    have message : Unbroken ("invalid type: " ++ f.text ++ ", expected " ++ expected) := by
      simp only [unbroken_append]
      exact ⟨⟨⟨by decide, own⟩, by decide⟩, plain⟩
    exact message
  fun_cases wrongType (α := α) expected ts with
  | case1 => exact mismatch (by decide) _ _
  | case2 b => exact mismatch (by cases b <;> decide) _ _
  | case3 n => exact mismatch (unbroken_found n) _ _
  | case4 | case6 => exact reads_error h.head.1
  | case5 s => exact mismatch (unbroken_string s) _ _
  | case7 | case8 => exact mismatch (by decide) _ _
  | case9 => exact leaves_noValue h

/-- A string is read, or the message is one line. -/
lemma leaves_readString {ts : List Token} (h : Textual ts) : Leaves (readString ts) := by
  fun_cases readString ts with
  | case1 => exact h.tail
  | case2 => exact leaves_wrongType (by decide) h

/-- A value that may be null is read, or the message is one line. -/
lemma leaves_readOptional {α : Type} {read : List Token → Reading α}
    (hr : ∀ ts, Textual ts → Leaves (read ts)) {ts : List Token} (h : Textual ts) :
    Leaves (readOptional read ts) := by
  fun_cases readOptional read ts with
  | case1 => exact h.tail
  | case2 => exact Ends.map (hr _ h) fun _ own => own

namespace Shape

variable {σ α : Type}

/-- The names of a shape are on one line, and so is what its fields and its records are refused
for. -/
structure Plain (s : Shape σ α) : Prop where
  name : Unbroken s.name
  field : ∀ f ∈ s.fields, Unbroken f.name
  read : ∀ f ∈ s.fields, ∀ draft ts, Textual ts → Leaves (f.read draft ts)
  finish : ∀ draft m, s.finish draft = .error m → Unbroken m.message

/-- The message about a member that comes twice is one line. -/
lemma leaves_repeatedAt {name : String} (h : Unbroken name) (rest : List Token) :
    Leaves (repeatedAt name rest : Reading σ) := by
  have message : Unbroken ("duplicate field \x60" ++ name ++ "\x60") := by
    simp only [unbroken_append]
    exact ⟨⟨by decide, h⟩, by decide⟩
  exact message

/-- Where the members end, the record is finished, or the message is one line. -/
lemma leaves_readEnd (draft : σ) {ts : List Token} (h : Textual ts) :
    Leaves (readEnd draft ts) := by
  fun_cases readEnd draft ts with
  | case1 => exact h
  | _ => exact reads_error rfl

namespace Plain

variable {s : Shape σ α} (plain : s.Plain)

include plain

/-- A member is read into the draft, or the message is one line. -/
lemma leaves_readMember (draft : σ) {ts : List Token} (h : Textual ts) :
    Leaves (s.readMember draft ts) := by
  apply Ends.bind (leaves_readName h)
  rintro ⟨name, rest⟩ h
  dsimp only
  split
  · apply Ends.bind (reads_readColon h)
    intro rest h
    exact Ends.bind (reads_skip h) fun _ own => own
  · next f known =>
    have mem := List.mem_of_find?_eq_some known
    have same : f.name = name := by simpa using List.find?_some known
    split
    · exact leaves_repeatedAt (same ▸ plain.field f mem) rest
    · exact Ends.bind (reads_readColon h) fun rest h => plain.read f mem draft rest h

/-- The members are read one after the other, or the message is one line. -/
lemma leaves_readMembers (budget : Nat) (first : Bool) (draft : σ) {ts : List Token}
    (h : Textual ts) : Leaves (s.readMembers budget first draft ts) := by
  induction budget generalizing first draft ts with
  | zero => exact reads_error rfl
  | succ budget ih =>
    rw [readMembers.eq_def]
    dsimp only
    split
    · exact reads_error rfl
    · exact h
    · exact Ends.bind (plain.leaves_readMember draft h) fun x h => ih false x.1 h
    · exact reads_error rfl
    · exact reads_error rfl
    · exact Ends.bind (plain.leaves_readMember draft h.tail) fun x h => ih false x.1 h
    · exact reads_error rfl

/-- The message about too few items is one line. -/
lemma unbroken_length (done : Nat) :
    Unbroken (Mismatch.invalidLength done s.lengthText).message := by
  have elements : Unbroken (if s.fields.length = 1 then " element" else " elements") := by
    split <;> decide
  have expected : Unbroken s.lengthText :=
    unbroken_append.2 ⟨unbroken_append.2 ⟨unbroken_append.2 ⟨unbroken_append.2
      ⟨by decide, plain.name⟩, by decide⟩, unbroken_nat _⟩, elements⟩
  exact unbroken_append.2 ⟨unbroken_append.2 ⟨unbroken_append.2
    ⟨by decide, unbroken_nat _⟩, by decide⟩, expected⟩

/-- The fields are read from the items of an array, or the message is one line. -/
lemma leaves_readFields (done : Nat) {fields : List (Field σ)} (own : fields ⊆ s.fields)
    (draft : σ) {ts : List Token} (h : Textual ts) :
    Leaves (s.readFields done fields draft ts) := by
  induction fields generalizing done draft ts with
  | nil => exact leaves_readEnd draft h
  | cons f fields ih =>
    obtain ⟨mem, own⟩ := List.cons_subset.1 own
    rw [readFields.eq_def]
    dsimp only
    split
    · exact reads_error rfl
    · split
      · exact h
      · exact plain.unbroken_length done
    · exact Ends.bind (plain.read f mem draft _ h) fun x h => ih _ own x.1 h
    · exact reads_error rfl
    · exact Ends.bind (plain.read f mem draft _ h.tail) fun x h => ih _ own x.1 h
    · exact reads_error rfl

/-- The bracket behind the fields is read, or the message is one line. -/
lemma leaves_close (draft : σ) {ts : List Token} (h : Textual ts) :
    Leaves (s.close draft ts) := by
  rw [close]
  split
  · exact fun t mem => h t (List.mem_of_mem_drop mem)
  · next refused => exact plain.finish draft _ refused

/-- A record is read, or the message is one line. -/
lemma leaves_read {ts : List Token} (h : Textual ts) : Leaves (s.read ts) := by
  fun_cases Shape.read s ts with
  | case1 rest =>
    apply Ends.bind (plain.leaves_readMembers _ _ _ h.tail)
    rintro ⟨draft, rest⟩ h
    exact plain.leaves_close draft h
  | case2 rest =>
    apply Ends.bind (plain.leaves_readFields 0 (List.Subset.refl _) _ h.tail)
    rintro ⟨draft, rest⟩ h
    exact plain.leaves_close draft h
  | case3 =>
    exact leaves_wrongType (unbroken_append.2 ⟨by decide, plain.name⟩) h

end Plain

end Shape

/-- A message with its place is one line if the message is. -/
lemma Error.unbroken_message {e : Error} (h : Unbroken e.fault.message) : Unbroken e.message := by
  simp only [message, unbroken_append]
  exact ⟨⟨⟨⟨h, by decide⟩, unbroken_nat _⟩, by decide⟩, unbroken_nat _⟩

/-- A text that cannot be read is refused in one line if its values are. -/
lemma unbroken_decodeWith {α : Type} {read : List Token → Reading α}
    (h : ∀ ts, Textual ts → Leaves (read ts)) {text : List Char} {e : Error}
    (refused : decodeWith read text = .error e) : Unbroken e.message := by
  have all : Reads (fun _ => True) (readAll read (tokens text)) := by
    apply Ends.bind (h _ (textual_tokens text))
    rintro ⟨x, rest⟩ -
    dsimp only
    split
    · exact trivial
    · exact reads_error rfl
  rw [decodeWith] at refused
  cases stopped : readAll read (tokens text) with
  | ok x =>
    rw [stopped] at refused
    cases refused
  | error stop =>
    rw [stopped] at all refused
    cases refused
    exact Error.unbroken_message all

end Shortlink.Json

import Shortlink.Payload
import Shortlink.Proofs.Json.Grammar
import Shortlink.Proofs.Text.Numbers

/-!
# What is shown of a payload

Something is always shown of the body of a reply, and no blanks around it. A payload that says
something in a text of its own is shown as that text; any other one as JSON, from which it can be
read again as long as its numbers are whole.
-/

namespace Shortlink

/-! ## What is written -/

namespace Json

open Text

/-- Whatever stands between two signs that are no blanks. -/
lemma isStripped_enclosed {c c' : Char} (cs : List Char) (front : isBlank c = false)
    (back : isBlank c' = false) : IsStripped (c :: cs ++ [c']) := by
  have last : ∀ d ∈ (cs ++ [c']).getLast?, isBlank d = false := by
    rw [List.getLast?_concat]
    rintro _ ⟨⟩
    exact back
  rw [List.cons_append, ← List.singleton_append]
  exact isStripped_append (List.cons_ne_nil c []) (List.forall_mem_singleton.2 front) last

/-- Numbers in the compact style have no blank. -/
lemma covers_visible : Decimal.compactStyle.Covers (isBlank · = false) where
  digit := fun _ => isBlank_of_isDigit
  point := rfl
  power := rfl
  minus := rfl
  plus := by simp [Decimal.compactStyle, isBlank]

/-- A number is written without a blank. -/
lemma Number.visible_write (n : Number) : ∀ c ∈ n.write, isBlank c = false := by
  cases n with
  | integer i =>
    have digits := covers_visible.toDigits i.natAbs
    rw [write, writeInt]
    split
    · exact List.forall_mem_cons.2 ⟨rfl, digits⟩
    · exact digits
  | float x => exact covers_visible.text x

/-- No blanks stand around a value that is written. -/
lemma Value.isStripped_write (v : Value) : IsStripped v.write := by
  cases v with
  | null => exact isStripped_of_visible (by simp [write, isBlank])
  | boolean b => cases b <;> exact isStripped_of_visible (by simp [write, isBlank])
  | number n => exact isStripped_of_visible n.visible_write
  | string | array | object => exact isStripped_enclosed _ rfl rfl

/-- The blanks of the format are blanks of texts. -/
lemma Spaces.blank {cs : List Char} (h : Spaces cs) : ∀ c ∈ cs, isBlank c = true := by
  intro c mem
  obtain rfl | rfl | rfl | rfl := eq_of_isSpace (h c mem) <;> rfl

end Json

namespace Payload

open Json

/-! ## What a payload says -/

/-- A payload says this in a text of its own: it is a string, or its `error` is one, or, where that
is none, its `message`. A null says nothing. -/
inductive Says : Value → String → Prop
  | null : Says .null ""
  | string {s : String} : Says (.string s) s
  | error {members : List (String × Value)} {s : String} :
    Value.get? "error" members = some (.string s) → Says (.object members) s
  | message {members : List (String × Value)} {s : String} :
    (∀ s', Value.get? "error" members ≠ some (.string s')) →
    Value.get? "message" members = some (.string s) → Says (.object members) s

/-- A payload has no text of its own: it is an array, a number or a truth value, or neither its
`error` nor its `message` is a string. -/
inductive IsMute : Value → Prop
  | array {items : List Value} : IsMute (.array items)
  | number {n : Number} : IsMute (.number n)
  | boolean {b : Bool} : IsMute (.boolean b)
  | object {members : List (String × Value)} :
    (∀ s, Value.get? "error" members ≠ some (.string s)) →
    (∀ s, Value.get? "message" members ≠ some (.string s)) → IsMute (.object members)

/-- A member that is no string has no text. -/
lemma bind_asString? {v? : Option Value} (h : ∀ s, v? ≠ some (.string s)) :
    v?.bind Value.asString? = none := by
  cases v? with
  | none => rfl
  | some v =>
    cases v with
    | string s => exact (h s rfl).elim
    | _ => rfl

/-- A payload that says something is described by it, without the blanks around it. -/
lemma Says.describe {v : Value} {s : String} (h : Says v s) : describe v = Text.trim s := by
  cases h with
  | null => rfl
  | string => rfl
  | error own => simp [Payload.describe, memberText?, own, Value.asString?]
  | message other own =>
    simp [Payload.describe, memberText?, bind_asString? other, own, Value.asString?]

/-- A payload without a text of its own is described by the text of the value. -/
lemma IsMute.describe {v : Value} (h : IsMute v) : describe v = v.text := by
  cases h with
  | array | number | boolean => rfl
  | object error message =>
    simp [Payload.describe, memberText?, bind_asString? error, bind_asString? message]

/-! ## What is shown -/

/-- A text without the blanks around it; the status stands in for a blank one. -/
def orStatus (status : UInt16) (s : String) : String :=
  if Text.isBlankText s then "HTTP " ++ toString status.toNat else Text.trim s

variable {status : UInt16} {body : String} {v : Value}

/-- A body that is a value is described as its payload. -/
lemma bodyText_of_ok (read : Json.parse body.toList = .ok v) : bodyText body = describe v := by
  rw [bodyText, read]

/-- A body that is no value is its own text, without the blanks around it. -/
lemma bodyText_of_error {e : Error} (read : Json.parse body.toList = .error e) :
    bodyText body = Text.trim body := by
  rw [bodyText, read]

/-- A body is described by its text, and the status stands in for a blank one. -/
lemma describeBody_of_bodyText {s : String} (own : bodyText body = Text.trim s) :
    describeBody status body = orStatus status s := by
  rw [describeBody, own]
  rfl

/-- A body is never described by nothing. -/
lemma describeBody_ne_empty (status : UInt16) (body : String) : describeBody status body ≠ "" := by
  rw [describeBody]
  split
  · simp
  · next full =>
    rw [String.isEmpty_iff] at full
    exact full

/-- Nothing is blank at the ends of a text without the blanks around it. -/
lemma isStripped_trim (s : String) : Text.IsStripped (Text.trim s).toList := by
  rw [Text.toList_trim]
  exact Text.isStripped_strip _

/-- A payload is described without blanks around it. -/
lemma isStripped_describe (v : Value) : Text.IsStripped (describe v).toList := by
  have written (v : Value) : Text.IsStripped v.text.toList := by
    rw [Value.text, String.toList_ofList]
    exact v.isStripped_write
  fun_cases describe v with
  | case1 | case2 => exact isStripped_trim _
  | case3 | case5 => exact written _
  | case4 => exact Text.isStripped_of_visible (by simp)

/-- A status that stands in for a text has no blanks around it. -/
lemma isStripped_status (status : UInt16) :
    Text.IsStripped ("HTTP " ++ toString status.toNat).toList := by
  have digits := covers_visible.nat status.toNat
  rw [String.toList_append]
  constructor
  · intro c mem
    cases mem
    rfl
  · intro c mem
    rw [List.getLast?_append_of_ne_nil _ (by simp)] at mem
    exact digits c (List.mem_of_getLast? mem)

/-- A body is described without blanks around it. -/
lemma isStripped_describeBody (status : UInt16) (body : String) :
    Text.IsStripped (describeBody status body).toList := by
  rw [describeBody]
  split
  · exact isStripped_status status
  · cases read : Json.parse body.toList with
    | ok v =>
      rw [bodyText_of_ok read]
      exact isStripped_describe v
    | error e =>
      rw [bodyText_of_error read]
      exact isStripped_trim body

/-- Blanks of the format around a body change nothing. -/
lemma bodyText_between_spaces {front back : String} (before : Spaces front.toList)
    (behind : Spaces back.toList) (body : String) :
    bodyText (front ++ body ++ back) = bodyText body := by
  have text : (front ++ body ++ back).toList = front.toList ++ (body.toList ++ back.toList) := by
    simp
  have same := parse_between_spaces before behind body.toList
  rw [← text] at same
  cases read : Json.parse body.toList with
  | ok v => rw [bodyText_of_ok read, bodyText_of_ok ((same v).2 read)]
  | error e =>
    cases read' : Json.parse (front ++ body ++ back).toList with
    | ok v =>
      rw [(same v).1 read'] at read
      cases read
    | error e' =>
      rw [bodyText_of_error read, bodyText_of_error read', Text.trim, text,
        Text.strip_append before.blank behind.blank]
      rfl

/-- A payload without a text of its own is shown as one from which it can be read again. -/
lemma parse_describeBody (mute : IsMute v) (whole : v.IsWhole)
    (read : Json.parse body.toList = .ok v) :
    Json.parse (describeBody status body).toList = .ok v := by
  have again := parse_text read whole
  have full : ¬v.text.isEmpty = true := by
    intro empty
    rw [String.isEmpty_iff.1 empty] at again
    cases again
  rw [describeBody, bodyText_of_ok read, mute.describe, if_neg full]
  exact again

/-- What is shown of a body: always something and without blanks around it, and the same with blanks
around the body. It is what the payload says, or else the payload itself, or the text of a body that
is none. -/
theorem describeBody_shows (status : UInt16) (body : String) :
    (describeBody status body ≠ "" ∧ Text.IsStripped (describeBody status body).toList) ∧
    (∀ front back : String, Spaces front.toList → Spaces back.toList →
      describeBody status (front ++ body ++ back) = describeBody status body) ∧
    (∀ v, Json.parse body.toList = .ok v →
      (IsMute v → v.IsWhole → Json.parse (describeBody status body).toList = .ok v) ∧
      ∀ s, Says v s → describeBody status body = orStatus status s) ∧
    ∀ e, Json.parse body.toList = .error e → describeBody status body = orStatus status body := by
  refine ⟨⟨describeBody_ne_empty _ _, isStripped_describeBody _ _⟩, ?_, ?_, ?_⟩
  · intro front back before behind
    rw [describeBody, bodyText_between_spaces before behind]
    rfl
  · intro v read
    refine ⟨fun mute whole => parse_describeBody mute whole read, fun s own => ?_⟩
    exact describeBody_of_bodyText ((bodyText_of_ok read).trans own.describe)
  · exact fun e read => describeBody_of_bodyText (bodyText_of_error read)

/-- The message of an object whose error is no text is shown, whatever blanks stand around the
object; a list is shown as a list, and a body that is no JSON as it is. -/
theorem describeBody_shows_three :
    let list : Value := .array [.number (.integer 1), .number (.integer (-2))]
    describeBody 410 ("\n" ++ "\x7b\"error\": 5, \"message\": \" gone\"\x7d" ++ " ") = "gone" ∧
      Json.parse "[1, -2]".toList = .ok list ∧
      Json.parse (describeBody 500 "[1, -2]").toList = .ok list ∧
      describeBody 502 " <p> " = "<p>" := by
  intro list
  have object : Json.parse "\x7b\"error\": 5, \"message\": \" gone\"\x7d".toList =
      .ok (.object [("error", .number (.integer 5)), ("message", .string " gone")]) := by
    have cut : tokens "\x7b\"error\": 5, \"message\": \" gone\"\x7d".toList = [.openObject,
        .string (.ok "error") none, .colon, .number (.ok (.integer 5)) none, .comma,
        .string (.ok "message") none, .colon, .string (.ok " gone") none, .closeObject] := rfl
    rw [parse_eq_ok_iff, cut]
    exact readAll_readWhole.1 rfl
  have listed : Json.parse "[1, -2]".toList = .ok list := by
    have cut : tokens "[1, -2]".toList = [.openArray, .number (.ok (.integer 1)) none, .comma,
        .number (.ok (.integer (-2))) none, .closeArray] := rfl
    rw [parse_eq_ok_iff, cut]
    exact readAll_readWhole.1 rfl
  have whole : list.IsWhole := by simp [list, Value.IsWhole, Value.WholeItems, Fits]
  refine ⟨?_, listed, ?_, ?_⟩
  · obtain ⟨-, between, reads, -⟩ :=
      describeBody_shows 410 "\x7b\"error\": 5, \"message\": \" gone\"\x7d"
    have around := between "\n" " " (by simp [Spaces, isSpace]) (by simp [Spaces, isSpace])
    have shown := (reads _ object).2 " gone" (.message (by simp [Value.get?]) rfl)
    rw [around, shown]
    decide
  · exact ((describeBody_shows 500 "[1, -2]").2.2.1 list listed).1 .array whole
  · cases read : Json.parse " <p> ".toList with
    | ok v =>
      have cut : tokens " <p> ".toList = [.stray ⟨.expectedValue, 1⟩] := rfl
      rw [parse_eq_ok_iff, cut] at read
      cases read
    | error e =>
      rw [(describeBody_shows 502 " <p> ").2.2.2 e read]
      decide

end Payload

end Shortlink

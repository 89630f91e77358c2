import Shortlink.Proofs.Json.Records
import Shortlink.Wire

/-!
# What is exchanged is read back

Each type has a text of its own for every value: it is read as this value, and a text that was read,
whatever its form, can be replaced by the one that is written for what it says. That one does not
change any more.
-/

namespace Shortlink

open Json

namespace Json

variable {α : Type}

/-- The text that is written for what a text is read as. -/
def recode (read : List Char → Except Error α) (write : α → Value) (text : String) :
    Except Error String :=
  (read text.toList).map fun x => (write x).text

/-- A reader and a writer of texts go together: what is written for a value is read as this value,
and so is what is written in place of a text that was read. -/
structure RoundTrips (read : List Char → Except Error α) (write : α → Value) : Prop where
  read_write (x : α) : read (write x).text.toList = .ok x
  read_recode (text : String) (x : α) : read text.toList = .ok x →
    ∃ text', recode read write text = .ok text' ∧ read text'.toList = .ok x ∧
      recode read write text' = .ok text'

/-- A reader that restores what was written goes together with the writer. -/
lemma Restores.roundTrips {read : List Token → Reading α} {write : α → Value}
    (h : Restores read write) (whole : ∀ x, (write x).IsWhole) :
    RoundTrips (Json.decodeWith read) write where
  read_write := fun x => h.decodeWith (whole x)
  read_recode := by
    intro text x said
    have again := h.decodeWith (whole x)
    refine ⟨(write x).text, ?_, again, ?_⟩
    · rw [recode, said]
      rfl
    · rw [recode, again]
      rfl

end Json

/-- A number of 64 bits with sign is written as one. -/
lemma fits_toInt (n : Int64) : Fits n.toInt := by
  have low := n.le_toInt
  have high := n.toInt_lt
  constructor <;> omega

/-- A string that may be missing holds no number. -/
lemma whole_ofString? (s? : Option String) : (Value.ofString? s?).IsWhole := by
  cases s? <;> trivial

namespace CountReply

/-- A count reply is restored. -/
lemma restores : Restores shape.read toJson := by
  intro r
  have count := restores_int64.optional (fun _ h => by cases h)
  exact Shape.Fills.read (.field rfl rfl (count.field _ r.count) .done) rfl

/-- Count replies go to and fro. -/
lemma roundTrips : RoundTrips read toJson := by
  apply restores.roundTrips
  rintro ⟨_ | n⟩
  · exact ⟨trivial, trivial⟩
  · exact ⟨fits_toInt n, trivial⟩

/-- A text says the same when it is given by its bytes. -/
lemma readBytes_encode_iff {text : List Char} {r : CountReply} :
    readBytes (Text.Utf8.encode text) = .ok r ↔ read text = .ok r := by
  rw [readBytes, byteTokens_encode, read, decodeWith]
  cases readAll shape.read (tokens text) with
  | ok _ => simp [Except.mapError]
  | error _ => simp [Except.mapError]

end CountReply

namespace LinkRequest

/-- A link request is restored. -/
lemma restores : Restores shape.read toJson := by
  intro r
  exact Shape.Fills.read (.field rfl rfl (restores_string.field _ r.url) .done) rfl

/-- Link requests go to and fro. -/
lemma roundTrips : RoundTrips read toJson :=
  restores.roundTrips fun _ => ⟨trivial, trivial⟩

/-- The request that is sent for a URL is read as the request for this URL. -/
lemma read_toJson (r : LinkRequest) : read r.toJson.text.toList = .ok r := roundTrips.read_write r

end LinkRequest

namespace LinkReply

/-- A link reply is restored. -/
lemma restores : Restores shape.read toJson := by
  intro r
  apply Shape.Fills.read
  · apply Shape.Fills.field rfl rfl (restores_string?.field _ r.key)
    apply Shape.Fills.field rfl rfl (restores_string?.field _ r.shortUrl)
    exact Shape.Fills.field rfl rfl (restores_string?.field _ r.longUrl) .done
  · rfl

/-- Link replies go to and fro. -/
lemma roundTrips : RoundTrips read toJson :=
  restores.roundTrips fun _ =>
    ⟨whole_ofString? _, whole_ofString? _, whole_ofString? _, trivial⟩

end LinkReply

namespace ShortLink

/-- A link is restored. -/
lemma restores : Restores shape.read toJson := by
  intro l
  apply Shape.Fills.read
  · apply Shape.Fills.field rfl rfl (restores_string.field _ l.key)
    apply Shape.Fills.field rfl rfl (restores_string.field _ l.shortUrl)
    apply Shape.Fills.field rfl rfl (restores_bool.field _ l.created)
    exact Shape.Fills.field rfl rfl (restores_string?.field _ l.longUrl) .done
  · rfl

/-- Links go to and fro. -/
lemma roundTrips : RoundTrips read toJson :=
  restores.roundTrips fun _ => ⟨trivial, trivial, trivial, whole_ofString? _, trivial⟩

end ShortLink

/-- Keys go to and fro. -/
lemma Key.roundTrips : RoundTrips Key.read Key.toJson :=
  restores_string.roundTrips fun _ => trivial

/-- What becomes of a removal goes to and fro. -/
lemma Removal.roundTrips : RoundTrips Removal.read Removal.toJson := by
  apply Restores.roundTrips
  · exact restores_choice fun r => by cases r <;> rfl
  · exact fun _ => trivial

/-- The kinds of failures go to and fro. -/
lemma FailureKind.roundTrips : RoundTrips FailureKind.read FailureKind.toJson := by
  apply Restores.roundTrips
  · exact restores_choice fun k => by cases k <;> rfl
  · exact fun _ => trivial

/-- Everything that is exchanged or kept is read back from what is written for it. -/
theorem exchanged_round_trips :
    RoundTrips CountReply.read CountReply.toJson ∧
      RoundTrips LinkRequest.read LinkRequest.toJson ∧
      RoundTrips LinkReply.read LinkReply.toJson ∧
      RoundTrips ShortLink.read ShortLink.toJson ∧
      RoundTrips Key.read Key.toJson ∧
      RoundTrips Removal.read Removal.toJson ∧
      RoundTrips FailureKind.read FailureKind.toJson :=
  ⟨CountReply.roundTrips, LinkRequest.roundTrips, LinkReply.roundTrips, ShortLink.roundTrips,
    Key.roundTrips, Removal.roundTrips, FailureKind.roundTrips⟩

example : recode LinkReply.read LinkReply.toJson "[null, \"\\ud83d\\ude00\"]" =
    .ok "\x7b\"key\":null,\"short_url\":\"😀\",\"long_url\":null\x7d" := by
  decide +kernel

end Shortlink

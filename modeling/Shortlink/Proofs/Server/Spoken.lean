import Shortlink.Proofs.Json.Breaks
import Shortlink.Proofs.Server.KeyUrl
import Shortlink.Proofs.Server.Shorten
import Shortlink.Proofs.Url.Breaks

/-!
# What the server says

Some texts of a response are shown as they are, line feeds included: the short URL and the key of a
link, and what the body of a rejection says, which is a JSON string, the message in a JSON object,
or a body that is no JSON. Nothing else of a response can bring a line feed: other JSON is written
anew, where the JSON of a link cannot be read the message quotes what it repeats, and a location has
no controls but tabs.
-/

namespace Shortlink

open Text

/-- How many line feeds texts have together. -/
def breaksOf (texts : List String) : Nat := breaks (String.join texts)

/-- The line feeds of more texts add up. -/
lemma breaksOf_append (texts texts' : List String) :
    breaksOf (texts ++ texts') = breaksOf texts + breaksOf texts' := by
  rw [breaksOf, String.join_append, breaks_append, breaksOf, breaksOf]

/-- One text has its own line feeds. -/
lemma breaksOf_singleton (text : String) : breaksOf [text] = breaks text := by
  have joined : String.join [text] = text := String.empty_append
  rw [breaksOf, joined]

/-- Texts have no line feed together exactly if none of them has one. -/
lemma breaksOf_eq_zero_iff {texts : List String} :
    breaksOf texts = 0 ↔ ∀ text ∈ texts, Unbroken text := by
  rw [breaksOf, breaks_eq_zero_iff, Unbroken, String.toList_join, List.mem_flatMap]
  simp only [not_exists, not_and, Unbroken]

/-- What a link on view shows as it is: its short URL, the same where it can be copied, and its
key. -/
def ShortLink.texts (l : ShortLink) : List String := [l.shortUrl, l.shortUrl, l.key]

namespace Payload

/-- What the body of a reply says, if it is shown as it is but for the blanks around it. -/
def spoken? (body : String) : Option String :=
  match Json.parse body.toList with
  | .ok (.string s) => some (trim s)
  | .ok (.object members) => (memberText? ["error", "message"] members).map trim
  | .ok _ => none
  | .error _ => some (trim body)

/-- The text of a body breaks as what the body says does. -/
lemma breaks_bodyText (body : String) :
    breaks (bodyText body) = breaksOf (spoken? body).toList := by
  rw [bodyText, spoken?]
  cases Json.parse body.toList with
  | error e => exact (breaksOf_singleton _).symm
  | ok v =>
    have compact : breaks v.text = 0 := breaks_eq_zero_iff.2 v.unbroken_text
    cases v with
    | string s => exact (breaksOf_singleton _).symm
    | object members =>
      simp only [describe]
      cases memberText? ["error", "message"] members with
      | some s => exact (breaksOf_singleton _).symm
      | none => exact compact
    | null => rfl
    | boolean | number | array => exact compact

/-- The description of a body breaks as what the body says does. -/
lemma breaks_describeBody (status : UInt16) (body : String) :
    breaks (describeBody status body) = breaksOf (spoken? body).toList := by
  rw [describeBody, ← breaks_bodyText]
  split
  · next empty =>
    rw [String.isEmpty_iff] at empty
    rw [empty]
    have number : Unbroken ("HTTP " ++ toString status.toNat) :=
      unbroken_append.2 ⟨by decide, unbroken_nat _⟩
    exact breaks_eq_zero_iff.2 number
  · rfl

end Payload

/-- A rejection breaks as its message does. -/
lemma breaks_remote (status : Option UInt16) (m : String) :
    breaks (Failure.remote status m).userMessage = breaks m := by
  change breaks (if m.isEmpty then "Unable to shorten URL." else "Error: " ++ m) = _
  split
  · next empty =>
    rw [String.isEmpty_iff] at empty
    rw [empty]
    decide
  · rw [breaks_append]
    exact Nat.zero_add _

/-- The message about a request without a response is one line. -/
lemma SendError.unbroken_message {u : Url} (h : u.IsUnbroken) :
    Unbroken (Network.failure u).message := by
  have text := h.withoutUserInfo.unbroken_text
  rw [Network.failure]
  split
  · exact unbroken_append.2 ⟨unbroken_append.2 ⟨by decide, text⟩, by decide⟩
  · exact unbroken_append.2 ⟨unbroken_append.2 ⟨by decide, text⟩, by decide⟩

/-- The location of a response is one line. -/
lemma Response.unbroken_location {r : Response} {url : String} (h : r.location? = some url) :
    Unbroken url := by
  obtain ⟨-, allowed⟩ := Option.filter_eq_some_iff.1 h
  exact fun mem => absurd (List.all_eq_true.1 allowed _ mem) (by decide)

namespace LinkReply

/-- The messages about a link reply that cannot be read are one line each. -/
lemma plain_shape : shape.Plain where
  name := by decide
  field := by decide
  read := by
    -- the fields differ in their names and in where they are kept
    have text {name : String} (get : Draft → Option (Option String))
        (put : Option String → Draft → Draft) (draft : Draft) (ts : List Json.Token)
        (h : Json.Textual ts) :
        Json.Leaves ((Json.Field.of name (Json.readOptional Json.readString) get put true).read
          draft ts) :=
      Json.Ends.map (Json.leaves_readOptional (fun _ => Json.leaves_readString) h)
        fun _ own => own
    intro f mem
    simp only [shape, List.mem_cons, List.not_mem_nil, or_false] at mem
    rcases mem with rfl | rfl | rfl
    · exact text _ _
    · exact text _ _
    · exact text _ _
  finish := fun draft m h => by cases h

/-- Where the JSON of a link cannot be read, the message is on one line. -/
lemma unbroken_error {text : List Char} {e : Json.Error} (h : read text = .error e) :
    Unbroken e.message :=
  Json.unbroken_decodeWith (fun _ => plain_shape.leaves_read) h

end LinkReply

namespace Server

/-- What of a response is shown as it is where a URL is to be shortened. -/
def linkTexts (r : Response) : List String :=
  match r.text? with
  | none => []
  | some body =>
    if !r.isSuccess then (Payload.spoken? body).toList
    else
      match LinkReply.read body.toList with
      | .error _ => []
      | .ok ⟨some key, some shortUrl, _⟩ => [shortUrl, shortUrl, key]
      | .ok _ => (Payload.spoken? body).toList

/-- What of a response is shown as it is where the long URL of a key is asked for. -/
def longUrlTexts (r : Response) : List String :=
  if r.status = 404 ∨ r.isRedirection = true then []
  else (Payload.spoken? (r.text?.getD "")).toList

/-- A response with a link shows the texts of the link. -/
lemma linkTexts_of_ok {r : Response} {link : ShortLink} (h : linkOf r = .ok link) :
    linkTexts r = link.texts := by
  obtain ⟨success, arrived, read⟩ := linkOf_ok_iff.1 h
  simp [linkTexts, ShortLink.texts, success, arrived, read]

/-- A rejected response breaks as what its body says does. -/
lemma breaks_rejected (r : Response) (body : String) :
    breaks (rejected r body).userMessage = breaksOf (Payload.spoken? body).toList := by
  rw [rejected, breaks_remote, Payload.breaks_describeBody]

/-- Where no link is read off a response, the notification breaks as its texts do. -/
lemma breaks_of_linkOf_error {r : Response} {e : Failure} (h : linkOf r = .error e) :
    breaks e.userMessage = breaksOf (linkTexts r) := by
  cases arrived : r.text? with
  | none =>
    rw [linkOf_of_unreadable arrived] at h
    cases h
    rw [linkTexts, arrived]
    exact breaks_eq_zero_iff.2 (by decide)
  | some body =>
    rw [linkOf, arrived] at h
    rw [linkTexts, arrived]
    cases success : r.isSuccess with
    | false =>
      rw [success] at h
      cases h
      exact breaks_rejected r body
    | true =>
      simp only [success, Bool.not_true, Bool.false_eq_true, if_false] at h ⊢
      cases read : LinkReply.read body.toList with
      | error refused =>
        rw [read] at h
        cases h
        rw [breaks_remote, breaks_append]
        have message : breaks refused.message = 0 :=
          breaks_eq_zero_iff.2 (LinkReply.unbroken_error read)
        rw [message]
        exact breaks_eq_zero_iff.2 (by decide)
      | ok reply =>
        rw [read] at h
        obtain ⟨_ | key, _ | shortUrl, longUrl⟩ := reply
        all_goals cases h
        all_goals exact breaks_rejected r body

/-- A response with a long URL shows nothing of its own. -/
lemma longUrlTexts_of_ok {r : Response} {url? : Option String} (h : longUrlOf r = .ok url?) :
    longUrlTexts r = [] := by
  rw [longUrlOf] at h
  rw [longUrlTexts]
  split at h
  · next missing => exact if_pos (.inl missing)
  · split at h
    · next redirects => exact if_pos (.inr redirects)
    · cases h

/-- Where no long URL is read off a response, the notification breaks as its texts do. -/
lemma breaks_of_longUrlOf_error {r : Response} {e : Failure} (h : longUrlOf r = .error e) :
    breaks e.userMessage = breaksOf (longUrlTexts r) := by
  rw [longUrlOf] at h
  rw [longUrlTexts]
  split at h
  · cases h
  · next known =>
    split at h
    · next redirects =>
      rw [if_pos (.inr redirects)]
      split at h
      · cases h
      · cases h
        exact breaks_remote _ _
    · next other =>
      cases h
      rw [if_neg (not_or.2 ⟨known, other⟩)]
      exact breaks_rejected r _

end Server

end Shortlink

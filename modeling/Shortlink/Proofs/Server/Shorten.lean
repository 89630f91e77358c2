import Shortlink.Proofs.Payload
import Shortlink.Proofs.Server.Asking
import Shortlink.Proofs.Wire

/-!
# Shortening a URL

What is sent to shorten a URL, and what is made of the reply. A blank input is refused; any other
one goes out as it is between its blanks, whatever characters it holds. A link comes of it exactly
if the response carries one, and every failure is either one of the network or a rejection by the
server with its status and a text.
-/

namespace Shortlink

/-- The response of a reply, if it is one. -/
def Reply.response? : Reply → Option Response
  | .response r => some r
  | .closed | .hung => none

namespace Network

/-- Over plain connections a request is made exactly if one can be made for its URL. -/
lemma connects_of_http {n : Network} {u : Url} (up : n.up = true) (http : u.scheme = "http") :
    n.connects u = u.isRequestable := by
  simp [connects, reaches, up, http]

/-- Over plain connections the next reply decides on a request that can be made. -/
lemma response?_of_http {n : Network} {u : Url} (up : n.up = true) (http : u.scheme = "http") :
    n.response? u = if u.isRequestable then n.next.1.response? else none := by
  rw [response?, connects_of_http up http]
  cases n.next.1 <;> rfl

end Network

namespace Server

/-- A response whose body arrives gives a link or is rejected with its status and a text. -/
lemma linkOf_of_text {r : Response} {body : String} (arrived : r.text? = some body) :
    (∃ link, linkOf r = .ok link) ∨
      ∃ m, m ≠ "" ∧ linkOf r = .error (.remote (some r.status) m) := by
  have described := Payload.describeBody_ne_empty r.status body
  rw [linkOf, arrived]
  cases success : r.isSuccess with
  | false => exact .inr ⟨_, described, rfl⟩
  | true =>
    cases read : LinkReply.read body.toList with
    | error e => exact .inr ⟨"malformed response: " ++ e.message, by simp, by simp [read]⟩
    | ok reply =>
      obtain ⟨_ | key, _ | shortUrl, longUrl⟩ := reply
      · exact .inr ⟨_, described, by simp [read, rejected]⟩
      · exact .inr ⟨_, described, by simp [read, rejected]⟩
      · exact .inr ⟨_, described, by simp [read, rejected]⟩
      · exact .inl ⟨⟨key, shortUrl, r.status = 201, longUrl⟩, by simp [read]⟩

/-- A body that does not arrive is a failure of the network. -/
lemma linkOf_of_unreadable {r : Response} (lost : r.text? = none) :
    linkOf r = .error unreadable := by
  rw [linkOf, lost]

/-- What is made of the response to an input that is sent. -/
lemma shorten_value {s : Server} {input : String} (full : Text.isBlankText input = false)
    (n : Network) :
    ((s.shorten input).run n).value =
      match n.response? s.linksUrl with
      | some r => linkOf r
      | none => .error (.network (Network.failure s.linksUrl).message) := by
  rw [shorten, if_neg (by simp [full]), Traced.run_bind, Network.send_value]
  cases n.response? s.linksUrl <;> rfl

/-- A blank input is refused, with nothing sent. -/
lemma shorten_of_blank {s : Server} {input : String} (blank : Text.isBlankText input = true)
    (n : Network) :
    (s.shorten input).run n = ⟨.error (.validation "Please enter a valid URL."), n, []⟩ := by
  rw [shorten, if_pos blank]
  rfl

/-- What is made of an input that is sent, given the response to it if there is one. -/
inductive Shortened (response? : Option Response) : Except Failure ShortLink → Prop
  | link {r link} : response? = some r → r.Carries link → Shortened response? (.ok link)
  | rejected {r body m} :
    response? = some r → r.text? = some body → (∀ link, ¬ r.Carries link) → m ≠ "" →
    Shortened response? (.error (.remote (some r.status) m))
  | lost {m} :
    (∀ r, response? = some r → r.text? = none) → Shortened response? (.error (.network m))

/-- What is made of an input that is not blank is what its response tells. -/
lemma shortened {s : Server} {input : String} (full : Text.isBlankText input = false)
    (n : Network) : Shortened (n.response? s.linksUrl) ((s.shorten input).run n).value := by
  rw [shorten_value full]
  cases answered : n.response? s.linksUrl with
  | none => exact .lost (by simp)
  | some r =>
    cases arrived : r.text? with
    | none =>
      simp only [linkOf_of_unreadable arrived]
      exact .lost (by simp [arrived])
    | some body =>
      obtain ⟨link, made⟩ | ⟨m, full, made⟩ := linkOf_of_text arrived
      · simp only [made]
        exact .link rfl (linkOf_ok_iff.1 made)
      · have carriesNone (link : ShortLink) : ¬ r.Carries link := by
          rw [← linkOf_ok_iff, made]
          exact fun e => by cases e
        simp only [made]
        exact .rejected rfl arrived carriesNone full

/-- A response never makes the input invalid. -/
lemma Shortened.not_validation {response? : Option Response} {x : Except Failure ShortLink}
    (h : Shortened response? x) (m : String) : x ≠ .error (.validation m) := by
  cases h <;> exact fun e => by cases e

/-- A failure is one of the network exactly where no body arrives. -/
lemma Shortened.network_iff {response? : Option Response} {x : Except Failure ShortLink}
    (h : Shortened response? x) :
    (∃ m, x = .error (.network m)) ↔ ∀ r, response? = some r → r.text? = none := by
  cases h with
  | link answered carries =>
    cases carries with
    | intro success arrived read =>
      constructor
      · rintro ⟨m, e⟩
        cases e
      · intro lost
        rw [lost _ answered] at arrived
        cases arrived
  | rejected answered arrived =>
    constructor
    · rintro ⟨m, e⟩
      cases e
    · intro lost
      rw [lost _ answered] at arrived
      cases arrived
  | lost none => exact ⟨fun _ => none, fun _ => ⟨_, rfl⟩⟩

/-- A rejection has the status of the response and a text. -/
lemma Shortened.rejects {response? : Option Response} {x : Except Failure ShortLink}
    (h : Shortened response? x) {r : Response} (answered : response? = some r)
    (arrived : r.text?.isSome = true) (carriesNone : ¬ ∃ link, r.Carries link) :
    ∃ m, m ≠ "" ∧ x = .error (.remote (some r.status) m) := by
  cases h with
  | link answered' carries =>
    cases answered.symm.trans answered'
    exact absurd ⟨_, carries⟩ carriesNone
  | @rejected r' _ m answered' _ _ full =>
    cases answered.symm.trans answered'
    exact ⟨m, full, rfl⟩
  | lost none =>
    rw [none r answered] at arrived
    cases arrived

/-- Nothing is left of a blank text between its blanks. -/
lemma isBlankText_iff {s : String} : Text.isBlankText s = true ↔ Text.trim s = "" :=
  String.isEmpty_iff

/-- Shortening an input over plain connections. The input is refused, and nothing is sent, exactly
if nothing is left of it between its blanks. Else one request goes out, if one can be made for the
URL of the links at all, and its body is read as the request for what is left. A link comes of it
exactly if the response carries it; the failure is one of the network exactly if there is no
response or its body does not arrive, and in all other cases it is a rejection with the status of
the response and a text. -/
theorem shorten_outcome (s : Server) (http : s.base.scheme = "http") (replies : List Reply)
    (input : String) :
    let u := Text.trim input
    let n : Network := ⟨true, replies⟩
    let r := (s.shorten input).run n
    let response? := if s.linksUrl.isRequestable then n.next.1.response? else none
    ((∃ m, r.value = .error (.validation m)) ↔ u = "") ∧
      (u = "" → r.trace = []) ∧
      (u ≠ "" → ∃ body, LinkRequest.read body.toList = .ok ⟨u⟩ ∧
        r.trace = if s.linksUrl.isRequestable then [⟨.post, s.linksUrl, some body⟩] else []) ∧
      (∀ link, r.value = .ok link ↔ u ≠ "" ∧ ∃ resp, response? = some resp ∧ resp.Carries link) ∧
      ((∃ m, r.value = .error (.network m)) ↔
        u ≠ "" ∧ ∀ resp, response? = some resp → resp.text? = none) ∧
      ∀ resp, u ≠ "" → response? = some resp → resp.text?.isSome = true →
        (¬ ∃ link, resp.Carries link) →
        ∃ m, m ≠ "" ∧ r.value = .error (.remote (some resp.status) m) := by
  intro u n r response?
  have plain : s.linksUrl.scheme = "http" := (s.base.below_scheme []).trans http
  have responds : n.response? s.linksUrl = response? := Network.response?_of_http rfl plain
  have links (link : ShortLink) : r.value = .ok link ↔ _ := shorten_ok_iff
  rw [responds] at links
  cases blank : Text.isBlankText input with
  | true =>
    have empty : u = "" := isBlankText_iff.1 blank
    have run : r = _ := shorten_of_blank blank n
    refine ⟨⟨fun _ => empty, fun _ => ⟨_, congrArg (·.value) run⟩⟩, fun _ => congrArg (·.trace) run,
      fun full => absurd empty full, fun link => ?_, ?_, fun _ full => absurd empty full⟩
    · simp [links, blank, empty]
    · simp [run, empty]
  | false =>
    have full : u ≠ "" := fun empty => by rw [isBlankText_iff.2 empty] at blank; cases blank
    have result : Shortened response? r.value := responds ▸ shortened blank n
    refine ⟨⟨fun ⟨m, e⟩ => absurd e (result.not_validation m), fun empty => absurd empty full⟩,
      fun empty => absurd empty full, fun _ => ?_, fun link => ?_, ?_, ?_⟩
    · refine ⟨_, LinkRequest.read_toJson ⟨u⟩, ?_⟩
      have sent : r.trace = _ := (s.asks_shorten input).trace n
      have request : s.shortenRequest? input = some _ := if_neg (by simp [blank])
      rw [sent, request, Network.made_some, Network.connects_of_http rfl plain]
    · simp [links, blank, full]
    · rw [result.network_iff, and_iff_right full]
    · exact fun resp _ => result.rejects

/-- Blanks are left out, and the rest goes out with all its characters. -/
theorem shorten_outcome_of_quotes :
    ∃ s, ofUrl "http://localhost:8080/api" = .ok s ∧ s.base.scheme = "http" ∧
      ∃ body, LinkRequest.read body.toList = .ok ⟨"\"\\é\x01"⟩ ∧
        ((s.shorten " \"\\é\x01\u3000").run ⟨true, [.hung]⟩).trace =
          [⟨.post, s.linksUrl, some body⟩] := by
  let base : Url :=
    ⟨"http", some ⟨"", none, "localhost", some 8080⟩, false, .segments ["api"], none, none⟩
  have accepted : ofUrl "http://localhost:8080/api" = .ok ⟨base, rfl⟩ := rfl
  exact ⟨_, accepted, rfl,
    (shorten_outcome ⟨base, rfl⟩ rfl [.hung] " \"\\é\x01\u3000").2.2.1 (by decide)⟩

/-- A host with a quote in it is accepted, but no request can be made for it: nothing is sent,
though the server would answer with a link. -/
theorem shorten_unsent_of_quoted_host :
    let body := "\x7b\"key\":\"k\",\"short_url\":\"http://s/k\"\x7d"
    let resp : Response := ⟨201, [], Text.Utf8.encode body.toList, false⟩
    ∃ s, ofUrl "http://a\"b" = .ok s ∧ s.base.scheme = "http" ∧ Text.trim "u" ≠ "" ∧
      resp.Carries ⟨"k", "http://s/k", true, none⟩ ∧
      ((s.shorten "u").run ⟨true, [.response resp]⟩).trace = [] ∧
      ((s.shorten "u").run ⟨true, [.response resp]⟩).value =
        .error (.network "builder error for url (http://a\"b/)") := by
  intro body resp
  let base : Url := ⟨"http", some ⟨"", none, "a\"b", none⟩, false, .segments [""], none, none⟩
  have accepted : ofUrl "http://a\"b" = .ok ⟨base, rfl⟩ := rfl
  have arrived : resp.text? = some body := by decide +kernel
  have read : LinkReply.read body.toList = .ok ⟨some "k", some "http://s/k", none⟩ := by
    decide +kernel
  have carries : resp.Carries ⟨"k", "http://s/k", true, none⟩ := .intro rfl arrived read
  exact ⟨_, accepted, rfl, by decide, carries, rfl, rfl⟩

end Server

end Shortlink

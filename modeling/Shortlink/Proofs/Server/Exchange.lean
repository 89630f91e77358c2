import Mathlib.Tactic.Lemma
import Shortlink.Server

/-!
# What the server answers

An exchange ends well exactly if there is a response and the response is of the right kind. Whether
there is one is a matter of the network and the URL alone; what it says is read off the response.
-/

namespace Shortlink

namespace Network

/-- Whether a request for a URL is made at all. -/
def connects (n : Network) (u : Url) : Bool := u.isRequestable && n.reaches u

/-- The response that a request for a URL gets, if it gets one. -/
def response? (n : Network) (u : Url) : Option Response :=
  if n.connects u then
    match n.next.1 with
    | .response r => some r
    | .closed | .hung => none
  else none

/-- A request that connects is made, and the next reply decides. -/
lemma run_send_of_connects {q : Request} {n : Network} (h : n.connects q.url = true) :
    (send q).run n =
      ⟨match n.next.1 with
        | .response r => .ok r
        | .closed | .hung => .error (.unanswered q.url), n.next.2, [q]⟩ := by
  rw [connects, Bool.and_eq_true] at h
  rw [send]
  rw [Traced.run_bind, Traced.run_read, if_neg (by simp [h.1]), if_neg (by simp [h.2])]
  cases n.next.1 <;> rfl

/-- A request that does not connect is not made, and it uses up no reply. -/
lemma run_send_of_not_connects {q : Request} {n : Network} (h : n.connects q.url = false) :
    ∃ e, (send q).run n = ⟨.error e, n, []⟩ := by
  rw [send]
  rw [Traced.run_bind, Traced.run_read]
  cases requestable : q.url.isRequestable with
  | false => exact ⟨_, rfl⟩
  | true =>
    rw [connects, requestable, Bool.true_and] at h
    rw [if_neg (by simp), if_pos (by simp [h])]
    exact ⟨_, rfl⟩

/-- A request gets the response that there is for its URL, or it fails. -/
lemma send_cases (q : Request) (n : Network) :
    (∃ r, ((send q).run n).value = .ok r ∧ n.response? q.url = some r) ∨
      ∃ e, ((send q).run n).value = .error e ∧ n.response? q.url = none := by
  rw [response?]
  cases h : n.connects q.url with
  | true =>
    rw [run_send_of_connects h]
    cases n.next.1 with
    | response r => exact .inl ⟨r, rfl, rfl⟩
    | closed => exact .inr ⟨_, rfl, rfl⟩
    | hung => exact .inr ⟨_, rfl, rfl⟩
  | false =>
    obtain ⟨e, run⟩ := run_send_of_not_connects h
    rw [run]
    exact .inr ⟨e, rfl, rfl⟩

/-- A request is made exactly if it connects. -/
lemma send_trace (q : Request) (n : Network) :
    ((send q).run n).trace = if n.connects q.url then [q] else [] := by
  cases h : n.connects q.url with
  | true =>
    rw [run_send_of_connects h]
    rfl
  | false =>
    obtain ⟨e, run⟩ := run_send_of_not_connects h
    rw [run]
    rfl

end Network

/-- A response carries a link: it tells of success, its body arrives, and the body has a key and a
short URL. -/
inductive Response.Carries (r : Response) : ShortLink → Prop
  | intro {body key shortUrl longUrl} :
    r.isSuccess = true → r.text? = some body →
    LinkReply.read body.toList = .ok ⟨some key, some shortUrl, longUrl⟩ →
    Carries r ⟨key, shortUrl, r.status = 201, longUrl⟩

namespace Server

/-- A server on the machine itself, for cases that are spelled out. -/
def localhost : Server where
  base := ⟨"http", some ⟨"", none, "localhost", some 8080⟩, false, .segments ["api"], none, none⟩
  structured := rfl

/-- Such a server is read from its URL. -/
lemma ofUrl_localhost : ofUrl "http://localhost:8080/api" = .ok localhost := rfl

/-- A link is read off a response exactly if it carries the link. -/
lemma linkOf_ok_iff {r : Response} {link : ShortLink} : linkOf r = .ok link ↔ r.Carries link := by
  constructor
  · intro h
    rw [linkOf] at h
    split at h
    · cases h
    · rename_i body arrived
      split at h
      · cases h
      · rename_i success
        split at h
        · cases h
        · rename_i read
          cases h
          exact .intro (by simpa using success) arrived read
        · cases h
  · rintro ⟨success, arrived, read⟩
    simp [linkOf, success, arrived, read]

/-- A link comes of a URL exactly if the URL is not blank and the response carries the link. -/
lemma shorten_ok_iff {s : Server} {input : String} {n : Network} {link : ShortLink} :
    ((s.shorten input).run n).value = .ok link ↔
      Text.isBlankText input = false ∧ ∃ r, n.response? s.linksUrl = some r ∧ r.Carries link := by
  rw [shorten]
  cases blank : Text.isBlankText input with
  | true => simp
  | false =>
    rw [if_neg (by simp), Traced.run_bind]
    rcases Network.send_cases
        ⟨.post, s.linksUrl, some (LinkRequest.toJson ⟨Text.trim input⟩).text⟩ n with
      ⟨r, sent, answer⟩ | ⟨e, sent, answer⟩
    · simp [sent, answer, linkOf_ok_iff]
    · simp [sent, answer]

/-- A link is gone by two statuses. -/
lemma isGone_ofStatus {status : UInt16} :
    (Removal.ofStatus status).isGone = true ↔ status = 200 ∨ status = 404 := by
  rw [Removal.ofStatus]
  split
  · simp [Removal.isGone, *]
  · split <;> simp [Removal.isGone, *]

/-- A link is gone exactly if its key is not blank and the response has one of these statuses. -/
lemma remove_isGone_iff {s : Server} {key : Key} {n : Network} :
    ((s.remove key).run n).value.isGone = true ↔
      Text.isBlankText key = false ∧
        ∃ r, n.response? (s.keyUrl key) = some r ∧ (r.status = 200 ∨ r.status = 404) := by
  rw [remove]
  cases blank : Text.isBlankText key with
  | true => simp [Removal.isGone]
  | false =>
    rw [if_neg (by simp), Traced.run_bind]
    rcases Network.send_cases ⟨.delete, s.keyUrl key, none⟩ n with
      ⟨r, sent, answer⟩ | ⟨e, sent, answer⟩
    · simp [sent, answer, isGone_ofStatus]
    · simp [sent, answer, Removal.isGone]

/-- Removing the link of a key makes one request if it connects. -/
lemma remove_trace {s : Server} {key : Key} (h : Text.isBlankText key = false) (n : Network) :
    ((s.remove key).run n).trace =
      if n.connects (s.keyUrl key) then [⟨.delete, s.keyUrl key, none⟩] else [] := by
  rw [remove, if_neg (by simp [h]), Traced.run_bind, Network.send_trace]
  cases ((Network.send ⟨.delete, s.keyUrl key, none⟩).run n).value <;> exact List.append_nil _

/-- Looking up a key makes one request if it connects. -/
lemma resolve_trace {s : Server} {key : Key} (h : Text.isBlankText key = false) (n : Network) :
    ((s.resolve key).run n).trace =
      if n.connects (s.keyUrl key) then [⟨.get, s.keyUrl key, none⟩] else [] := by
  rw [resolve, if_neg (by simp [h]), Traced.run_bind, Network.send_trace]
  cases ((Network.send ⟨.get, s.keyUrl key, none⟩).run n).value <;> exact List.append_nil _

end Server

end Shortlink

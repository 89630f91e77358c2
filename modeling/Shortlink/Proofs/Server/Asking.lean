import Mathlib.Data.List.Induction
import Shortlink.Proofs.Server.Exchange

/-!
# One request at a time

Whatever is asked of the server takes a single request, or none where the input is refused, and the
answer is read off what comes back for it. So an exchange uses up one reply at most, and the replies
behind that one have no part in its answer. Whether a request is made depends on the network and on
its own URL.
-/

namespace Shortlink

variable {α : Type}

/-- What is put below a URL changes nothing but its path. -/
lemma Url.below_path (u : Url) (segs : List String) :
    u.below segs = { u with path := (u.below segs).path } := by
  have trim : ∀ u : Url, u.trimPath = { u with path := u.trimPath.path } := by
    intro u
    rw [trimPath]
    split <;> rfl
  have push : ∀ (u : Url) (seg : String), u.push seg = { u with path := (u.push seg).path } := by
    intro u seg
    rw [Url.push]
    split <;> rfl
  rw [below]
  induction segs using List.reverseRecOn with
  | nil => exact trim u
  | append_singleton segs seg ih =>
    rw [List.foldl_append, List.foldl_cons, List.foldl_nil, push, ih]

/-- So it is asked for over the same connections. -/
lemma Url.below_scheme (u : Url) (segs : List String) : (u.below segs).scheme = u.scheme := by
  rw [below_path]

namespace Network

/-- The network when some of the replies are used up. -/
def behind (n : Network) (used : Nat) : Network := { n with replies := n.replies.drop used }

/-- Taking a reply uses it up. -/
lemma next_state (n : Network) : n.next.2 = n.behind 1 := by
  obtain ⟨up, replies⟩ := n
  cases replies <;> rfl

/-- Sending uses up a reply for each request that is made. -/
lemma send_state (q : Request) (n : Network) :
    ((send q).run n).state = n.behind ((send q).run n).trace.length := by
  cases h : n.connects q.url with
  | true =>
    rw [run_send_of_connects h]
    exact n.next_state
  | false =>
    obtain ⟨e, run⟩ := run_send_of_not_connects h
    rw [run]
    rfl

/-- Whether a request is made does not depend on the replies. -/
lemma connects_congr {n n' : Network} (up : n'.up = n.up) (u : Url) :
    n'.connects u = n.connects u := by
  rw [connects, connects, reaches, reaches, up]

/-- The requests that are made, of those that are asked for. -/
def made (n : Network) (q? : Option Request) : List Request :=
  q?.toList.filter (n.connects ·.url)

/-- A request that is asked for is made if it connects. -/
lemma made_some (n : Network) (q : Request) :
    n.made (some q) = if n.connects q.url then [q] else [] := by
  cases connected : n.connects q.url <;> simp [made, connected]

/-- What is made does not depend on the replies. -/
lemma made_congr {n n' : Network} (up : n'.up = n.up) (q? : Option Request) :
    n'.made q? = n.made q? := by
  simp only [made, connects_congr up]

/-- What comes next depends on the first reply alone. -/
lemma next_congr {n n' : Network} (same : n'.replies.head? = n.replies.head?) :
    n'.next.1 = n.next.1 := by
  obtain ⟨up, replies⟩ := n
  obtain ⟨up', replies'⟩ := n'
  cases replies <;> cases replies' <;> simp_all [next]

/-- A request that is not made needs no reply. -/
lemma response?_congr {n n' : Network} {u : Url} (up : n'.up = n.up)
    (same : n.connects u = true → n'.replies.head? = n.replies.head?) :
    n'.response? u = n.response? u := by
  rw [response?, response?, connects_congr up]
  cases connected : n.connects u with
  | true => rw [next_congr (same connected)]
  | false => rfl

/-- Why a request for a URL has no response, where it has none. -/
def failure (u : Url) : SendError :=
  if u.isRequestable then .unanswered u else .unusable u

/-- What comes of a request is the response, if there is one. -/
lemma send_value (q : Request) (n : Network) :
    ((send q).run n).value =
      match n.response? q.url with
      | some r => .ok r
      | none => .error (failure q.url) := by
  rw [response?, failure]
  cases h : n.connects q.url with
  | true =>
    rw [run_send_of_connects h]
    rw [connects, Bool.and_eq_true] at h
    rw [h.1]
    cases n.next.1 <;> rfl
  | false =>
    rw [connects] at h
    rw [send, Traced.run_bind, Traced.run_read]
    cases requestable : q.url.isRequestable with
    | false => rfl
    | true =>
      rw [requestable, Bool.true_and] at h
      rw [if_neg (by simp), if_pos (by simp [h])]
      rfl

end Network

/-- An exchange makes this request and does no more than read its answer off what comes back, or it
makes none. -/
inductive Asks : Exchange α → Option Request → Prop
  | nothing (x : α) : Asks (pure x) none
  | once {q : Request} {f : Except SendError Response → Exchange α} :
    (∀ y, ∃ x, f y = pure x) → Asks (Network.send q >>= f) (some q)

namespace Asks

variable {m : Exchange α} {q? : Option Request}

/-- An exchange makes the request that it asks for, if it can be made. -/
lemma trace (h : Asks m q?) (n : Network) :
    (m.run n).trace = n.made q? := by
  cases h with
  | nothing => rfl
  | @once q f reads =>
    obtain ⟨x, read⟩ := reads ((Network.send q).run n).value
    rw [Traced.run_bind, read, Traced.run_pure, List.append_nil, Network.send_trace,
      Network.made_some]

/-- An exchange uses up a reply for each request that it makes. -/
lemma state (h : Asks m q?) (n : Network) :
    (m.run n).state = n.behind (m.run n).trace.length := by
  cases h with
  | nothing => rfl
  | @once q f reads =>
    obtain ⟨x, read⟩ := reads ((Network.send q).run n).value
    rw [Traced.run_bind, read, Traced.run_pure, List.append_nil]
    exact Network.send_state q n

/-- Only the reply to a request that is made matters. -/
lemma value_congr (h : Asks m q?) {n n' : Network} (up : n'.up = n.up)
    (same : n'.replies.take (m.run n).trace.length = n.replies.take (m.run n).trace.length) :
    (m.run n').value = (m.run n).value := by
  rw [h.trace] at same
  cases h with
  | nothing => rfl
  | @once q f reads =>
    have first (connected : n.connects q.url = true) : n'.replies.head? = n.replies.head? := by
      have heads := congrArg List.head? same
      simpa [Network.made_some, connected, List.head?_take] using heads
    have answered : ((Network.send q).run n').value = ((Network.send q).run n).value := by
      rw [Network.send_value, Network.send_value, Network.response?_congr up first]
    obtain ⟨x, read⟩ := reads ((Network.send q).run n).value
    rw [Traced.run_bind, Traced.run_bind, answered, read]
    rfl

end Asks

namespace Server

variable (s : Server)

/-- A request goes to a place below the base URL. -/
def Addresses (q : Request) : Prop := ∃ segs, q.url = s.base.below segs

/-- The request to shorten a URL. -/
def shortenRequest? (input : String) : Option Request :=
  if Text.isBlankText input then none
  else some ⟨.post, s.linksUrl, some (LinkRequest.toJson ⟨Text.trim input⟩).text⟩

/-- The request about the link of a key: to remove it, or for its long URL. -/
def keyRequest? (method : Method) (key : Key) : Option Request :=
  if Text.isBlankText key then none else some ⟨method, s.keyUrl key, none⟩

/-- The request for the count. -/
def countRequest : Request := ⟨.get, s.countUrl, none⟩

variable {s}

/-- A request goes out over the connections of the base URL. -/
lemma Addresses.scheme {q : Request} (h : s.Addresses q) : q.url.scheme = s.base.scheme := by
  obtain ⟨segs, url⟩ := h
  rw [url, Url.below_scheme]

/-- The count is asked for at a place below the base URL. -/
lemma addresses_countRequest : s.Addresses s.countRequest := ⟨["ping"], rfl⟩

/-- A URL is shortened at a place below the base URL. -/
lemma addresses_shortenRequest? {input : String} {q : Request}
    (h : q ∈ s.shortenRequest? input) : s.Addresses q := by
  rw [shortenRequest?] at h
  split at h
  · cases h
  · cases h
    exact ⟨[], rfl⟩

/-- The link of a key lies at a place below the base URL. -/
lemma addresses_keyRequest? {method : Method} {key : Key} {q : Request}
    (h : q ∈ s.keyRequest? method key) : s.Addresses q := by
  rw [keyRequest?] at h
  split at h
  · cases h
  · cases h
    exact ⟨[key], rfl⟩

variable (s)

/-- The count asks once, and always. -/
lemma asks_count : Asks s.count (some s.countRequest) :=
  .once fun y => by cases y <;> exact ⟨_, rfl⟩

/-- Shortening asks once, unless the input is blank. -/
lemma asks_shorten (input : String) : Asks (s.shorten input) (s.shortenRequest? input) := by
  rw [shorten, shortenRequest?]
  split
  · exact .nothing _
  · exact .once fun y => by cases y <;> exact ⟨_, rfl⟩

/-- Removing asks once, unless the key is blank. -/
lemma asks_remove (key : Key) : Asks (s.remove key) (s.keyRequest? .delete key) := by
  rw [remove, keyRequest?]
  split
  · exact .nothing _
  · exact .once fun y => by cases y <;> exact ⟨_, rfl⟩

/-- Looking a key up asks once, unless the key is blank. -/
lemma asks_resolve (key : Key) : Asks (s.resolve key) (s.keyRequest? .get key) := by
  rw [resolve, keyRequest?]
  split
  · exact .nothing _
  · exact .once fun y => by cases y <;> exact ⟨_, rfl⟩

end Server

end Shortlink

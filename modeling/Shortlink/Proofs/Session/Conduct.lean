import Shortlink.Proofs.Server.Shorten
import Shortlink.Proofs.Session.Parts

/-!
# How an action goes

Every action of a session has three parts. It asks the server for one thing at most, it goes on with
the answer on its own, and in the end it asks for the count, or it does not. In its middle part it
neither sends a request nor shows a count, and so what it comes to depends on the reply to its first
request alone.
-/

namespace Shortlink

/-- Whether an event is neither a request nor a count on view. -/
def Effect.isLocal : Effect → Bool
  | .requested _ | .shown (.count _) => false
  | .shown (.panel _) | .shown (.notification _) | .copied _ | .printed _ => true

namespace Session

variable {α β γ : Type}

/-- The same session over another network. -/
def onNetwork (s : Session) (n : Network) : Session := { s with network := n }

/-- An exchange changes the network alone, and its requests are seen. -/
lemma run_exchange (f : Server → Exchange α) (s : Session) :
    (exchange f).run s =
      let r := (f s.server).run s.network
      ⟨r.value, s.onNetwork r.state, r.trace.map .requested⟩ := rfl

/-- Refreshing the count asks for it and shows it. -/
lemma run_refreshCount (s : Session) :
    refreshCount.run s =
      let r := s.server.count.run s.network
      ⟨r.value, s.onNetwork r.state, r.trace.map .requested ++ [.shown (.count r.value)]⟩ := by
  rw [refreshCount, Traced.run_bind, run_exchange]
  rfl

/-! ## On its own -/

/-- Nothing is asked of the server: the network is neither looked at nor changed, and no request and
no count is seen. -/
structure Offline (m : Action α) : Prop where
  run : ∀ (s : Session) (n : Network),
    m.run (s.onNetwork n) = ⟨(m.run s).value, (m.run s).state.onNetwork n, (m.run s).trace⟩
  server : ∀ s : Session, (m.run s).state.server = s.server
  isLocal : ∀ s : Session, ∀ e ∈ (m.run s).trace, e.isLocal = true

namespace Offline

/-- Nothing is asked where nothing is done. -/
lemma pure (x : α) : Offline (pure x) :=
  ⟨fun _ _ => rfl, fun _ => rfl, fun _ _ h => by cases h⟩

/-- Two actions ask nothing if neither of them does. -/
lemma bind {m : Action α} {f : α → Action β} (h : Offline m) (rest : ∀ x, Offline (f x)) :
    Offline (m >>= f) := by
  constructor
  · intro s n
    rw [Traced.run_bind, h.run, (rest _).run]
    rfl
  · intro s
    rw [Traced.run_bind, (rest _).server, h.server]
  · intro s e mem
    rw [Traced.run_bind, List.mem_append] at mem
    rcases mem with mem | mem
    · exact h.isLocal s e mem
    · exact (rest _).isLocal _ e mem

/-- What is read of the session is not the network. -/
lemma read_bind {f : Session → Action α} (blind : ∀ s n, f (s.onNetwork n) = f s)
    (rest : ∀ s, Offline (f s)) : Offline (Traced.read >>= f) := by
  constructor
  · intro s n
    change (f (s.onNetwork n)).run (s.onNetwork n) = _
    rw [blind, (rest s).run]
    rfl
  · exact fun s => (rest s).server s
  · exact fun s => (rest s).isLocal s

/-- An event of this kind asks nothing. -/
lemma emit {e : Effect} (h : e.isLocal = true) : Offline (Traced.emit e) :=
  ⟨fun _ _ => rfl, fun _ => rfl, fun _ e' mem => by cases List.mem_singleton.1 mem; exact h⟩

/-- A change of the panel asks nothing. -/
lemma onPanel {c : Panel.Change α}
    (h : ∀ p, ∀ u ∈ (c.run p).trace, (Effect.shown u).isLocal = true) : Offline (onPanel c) := by
  refine ⟨fun _ _ => rfl, fun _ => rfl, fun s e mem => ?_⟩
  obtain ⟨u, shown, rfl⟩ := List.mem_map.1 mem
  exact h _ u shown

/-- Only notifications come of what is done to them. -/
lemma onNotifier {c : Notifier.Change α}
    (quiet : ∀ w : Window Notifier Update Unit Update, Notifier.IsQuiet w → w.Misses c) :
    Offline (onNotifier c) := by
  refine ⟨fun _ _ => rfl, fun _ => rfl, fun s e mem => ?_⟩
  obtain ⟨u, shown, rfl⟩ := List.mem_map.1 mem
  -- a window on all that is not local sees nothing of it
  have misses := quiet ⟨fun _ => (), fun u => if (Effect.shown u).isLocal then none else some u⟩
    (fun _ => rfl) s.notifier
  have unseen : (if (Effect.shown u).isLocal then none else some u) = none :=
    List.filterMap_eq_nil_iff.1 misses.1 u shown
  simpa using unseen

/-- A message asks nothing. -/
lemma notify (message : String) : Offline (notify message) :=
  onNotifier fun _ quiet => quiet.notify true message

/-- Putting a link on the panel asks nothing. -/
lemma present (link : ShortLink) : Offline (Session.onPanel (Panel.present link)) :=
  onPanel fun _ _ mem => by cases List.mem_singleton.1 mem; rfl

/-- Taking a link off the panel asks nothing. -/
lemma settleRemoval (key : Key) (outcome : Removal) :
    Offline (Session.onPanel (Panel.settleRemoval key outcome)) := by
  apply onPanel
  intro p u mem
  rw [Panel.settleRemoval, Traced.run_bind, Traced.run_read] at mem
  split at mem
  · cases List.mem_singleton.1 mem
    rfl
  · cases mem

/-- Writing to the clipboard asks nothing. -/
lemma writeClipboard (text : String) : Offline (writeClipboard text) := by
  apply read_bind (fun _ _ => rfl)
  intro s
  split
  · exact .pure _
  · exact .bind (.emit rfl) fun _ => .pure _

/-- Copying a text asks nothing. -/
lemma copy (text : String) : Offline (copy text) := by
  apply bind (writeClipboard text)
  intro written
  split
  · exact .bind (.notify _) fun _ => .pure _
  · exact .bind (.notify _) fun _ => .pure _

/-- Copying the link on the panel asks nothing. -/
lemma copyCurrent : Offline copyCurrent := by
  apply read_bind (fun _ _ => rfl)
  intro s
  split
  · exact copy _
  · exact .bind (.notify _) fun _ => .pure _

end Offline

/-! ## Three parts -/

/-- Asks for the count if it should. -/
def countIf (counts : Bool) : Action Unit := do
  if counts then
    let _ ← refreshCount

/-- Asks the server for something, goes on with the answer, and asks for the count if it should. -/
def inParts (ask : Server → Exchange β) (goOn : β → Action α) (counts : β → Bool) : Action α := do
  let answer ← exchange ask
  let x ← goOn answer
  countIf (counts answer)
  return x

/-- A function of the answer may be put behind the three parts. -/
lemma inParts_map (ask : Server → Exchange β) (goOn : β → Action α) (counts : β → Bool)
    (f : α → γ) :
    inParts ask (fun answer => do return f (← goOn answer)) counts =
      do return f (← inParts ask goOn counts) := by
  simp only [inParts, bind_assoc, pure_bind]

/-- An action goes in three parts, whatever the network is: at first it makes this request if it
makes one, and in the end it asks for the count or does not. -/
inductive Conducts (s : Session) (m : Action α) (q? : Option Request) (counts : Bool) : Prop
  | intro {β : Type} (ask : Server → Exchange β) (goOn : β → Action α) (counts? : β → Bool) :
    Asks (ask s.server) q? → (∀ answer, Offline (goOn answer)) →
    (∀ n, counts? ((ask s.server).run n).value = counts) →
    (∀ n, m.run (s.onNetwork n) = (inParts ask goOn counts?).run (s.onNetwork n)) →
    Conducts s m q? counts

namespace Conducts

variable {s : Session} {m : Action α} {q? : Option Request} {counts : Bool}

/-- An action that asks nothing goes in three parts, the first and the last of them empty. -/
lemma of_offline (h : Offline m) (s : Session) : Conducts s m none false := by
  refine .intro (fun _ => pure ()) (fun _ => m) (fun _ => false) (.nothing ()) (fun _ => h)
    (fun _ => rfl) fun n => ?_
  have none : (exchange fun _ => pure ()).run (s.onNetwork n) = ⟨(), s.onNetwork n, []⟩ := rfl
  simp [inParts, countIf, none]

/-- What is made of the result in the end does not matter. -/
lemma map (h : Conducts s m q? counts) (f : α → β) :
    Conducts s (do return f (← m)) q? counts := by
  obtain ⟨ask, goOn, counts?, asks, offline, same, parts⟩ := h
  refine .intro ask (fun answer => do return f (← goOn answer)) counts? asks
    (fun answer => (offline answer).bind fun _ => .pure _) same fun n => ?_
  rw [inParts_map, Traced.run_bind, Traced.run_bind, parts]

/-- An action that begins with a look at the session. -/
lemma read_bind {f : Session → Action α} (blind : ∀ n, f (s.onNetwork n) = f s)
    (h : Conducts s (f s) q? counts) : Conducts s (Traced.read >>= f) q? counts := by
  obtain ⟨ask, goOn, counts?, asks, offline, same, parts⟩ := h
  refine .intro ask goOn counts? asks offline same fun n => ?_
  rw [← parts n]
  change (f (s.onNetwork n)).run (s.onNetwork n) = _
  rw [blind]

/-- What comes of an action over a network and over all others whose replies to its first request
are the same: the answer, the session ahead of the count, and the events of its own. -/
lemma run (h : Conducts s m q? counts) (n : Network) :
    let first := n.made q?
    ∃ (x : α) (mid : Session) (own : List Effect),
      mid.server = s.server ∧ (∀ e ∈ own, e.isLocal = true) ∧
        ∀ n' : Network, n'.up = n.up → n'.replies.take first.length = n.replies.take first.length →
          let last := (countIf counts).run (mid.onNetwork (n'.behind first.length))
          m.run (s.onNetwork n') =
            ⟨x, last.state, first.map .requested ++ (own ++ last.trace)⟩ := by
  intro first
  obtain ⟨ask, goOn, counts?, asks, offline, same, parts⟩ := h
  have sent (n' : Network) (up : n'.up = n.up) : ((ask s.server).run n').trace = first := by
    rw [asks.trace, Network.made_congr up]
  -- the answer over the first network fixes what is done with it over all of them
  let own := (goOn ((ask s.server).run n).value).run s
  refine ⟨own.value, own.state, own.trace, (offline _).server s, (offline _).isLocal s, ?_⟩
  intro n' up agree last
  have value : ((ask s.server).run n').value = ((ask s.server).run n).value := by
    apply asks.value_congr up
    rw [sent n rfl]
    exact agree
  have left : ((ask s.server).run n').state = n'.behind first.length := by
    rw [asks.state, sent n' up]
  have asked : (exchange ask).run (s.onNetwork n') =
      ⟨((ask s.server).run n).value, s.onNetwork (n'.behind first.length),
        first.map .requested⟩ := by
    rw [← value, ← left, ← sent n' up]
    exact run_exchange ask (s.onNetwork n')
  rw [parts, inParts, Traced.run_bind, asked, Traced.run_bind, (offline _).run, Traced.run_bind,
    same, Traced.run_pure, List.append_nil]

end Conducts

/-- What is made of the answer to a URL that is to be shortened. -/
def receiveLink : Except Failure ShortLink → Action (Option ShortLink)
  | .ok link => do
    notify (shortenedMessage link)
    onPanel (Panel.present link)
    return some link
  | .error e => do
    notify e.userMessage
    return none

/-- Whether the count is asked for then: not where nothing was sent. -/
def countsAfter : Except Failure ShortLink → Bool
  | .error (.validation _) => false
  | _ => true

/-- What is made of the answer where the link of a key was to be deleted. -/
def receiveRemoval (key : Key) (outcome : Removal) : Action Removal := do
  let _ ← onPanel (Panel.settleRemoval key outcome)
  notify (removalMessage outcome)
  return outcome

/-- What is made of the answer where the long URL of a key was asked for. -/
def receiveLongUrl (key : Key) : Except Failure (Option String) → Action (Option String)
  | .ok (some url) => do
    notify (key ++ " -> " ++ url)
    return some url
  | .ok none => do
    notify notFoundMessage
    return none
  | .error e => do
    notify e.userMessage
    return none

/-- Shortening goes in these parts. -/
lemma shorten_eq (input : String) :
    shorten input = inParts (·.shorten input) receiveLink countsAfter := by
  rw [shorten, inParts]
  refine bind_congr fun answer => ?_
  cases answer with
  | ok link => simp [receiveLink, countsAfter, countIf]
  | error e => cases e <;> simp [receiveLink, countsAfter, countIf]

/-- Deleting goes in these parts. -/
lemma delete_eq (key : Key) :
    delete key = inParts (·.remove key) (receiveRemoval key) fun _ => true := by
  rw [delete, inParts]
  refine bind_congr fun outcome => ?_
  simp [receiveRemoval, countIf]

/-- Looking a key up goes in these parts. -/
lemma resolve_eq (key : Key) :
    resolve key = inParts (·.resolve key) (receiveLongUrl key) fun _ => false := by
  rw [resolve, inParts]
  refine bind_congr fun answer => ?_
  obtain e | _ | url := answer <;> simp [receiveLongUrl, countIf]

/-- The count is asked for behind any input that is not blank. -/
lemma countsAfter_shorten (s : Server) (input : String) (n : Network) :
    countsAfter ((s.shorten input).run n).value = !Text.isBlankText input := by
  cases blank : Text.isBlankText input with
  | true =>
    rw [Server.shorten_of_blank blank]
    rfl
  | false =>
    have result := Server.shortened (s := s) blank n
    generalize ((s.shorten input).run n).value = answer at result
    cases result <;> rfl

/-- Shortening begins with its request and asks for the count unless the input is blank. -/
lemma conducts_shorten (s : Session) (input : String) :
    Conducts s (shorten input) (s.server.shortenRequest? input) (!Text.isBlankText input) := by
  rw [shorten_eq]
  refine .intro (·.shorten input) receiveLink countsAfter (s.server.asks_shorten input) ?_
    (countsAfter_shorten s.server input) fun _ => rfl
  rintro (e | link)
  · exact .bind (.notify _) fun _ => .pure _
  · exact .bind (.notify _) fun _ => .bind (.present link) fun _ => .pure _

/-- Deleting begins with its request and asks for the count in any case. -/
lemma conducts_delete (s : Session) (key : Key) :
    Conducts s (delete key) (s.server.keyRequest? .delete key) true := by
  rw [delete_eq]
  refine .intro (·.remove key) (receiveRemoval key) (fun _ => true) (s.server.asks_remove key) ?_
    (fun _ => rfl) fun _ => rfl
  intro outcome
  exact .bind (.settleRemoval key outcome) fun _ => .bind (.notify _) fun _ => .pure _

/-- Deleting the link on the panel does what deleting its key does, if there is one. -/
lemma conducts_deleteCurrent (s : Session) :
    Conducts s deleteCurrent (s.panel.bind fun link => s.server.keyRequest? .delete link.key)
      s.panel.isSome := by
  apply Conducts.read_bind (fun _ => rfl)
  cases s.panel with
  | some link =>
    rw [Option.bind_some, Option.isSome_some]
    exact (conducts_delete s link.key).map some
  | none => exact .of_offline (.bind (.notify _) fun _ => .pure _) s

/-- Looking a key up begins with its request and does not ask for the count. -/
lemma conducts_resolve (s : Session) (key : Key) :
    Conducts s (resolve key) (s.server.keyRequest? .get key) false := by
  rw [resolve_eq]
  refine .intro (·.resolve key) (receiveLongUrl key) (fun _ => false) (s.server.asks_resolve key)
    ?_ (fun _ => rfl) fun _ => rfl
  rintro (e | _ | url) <;> exact .bind (.notify _) fun _ => .pure _

end Session

end Shortlink

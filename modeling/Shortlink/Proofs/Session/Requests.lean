import Shortlink.Proofs.Notifier.Quiet
import Shortlink.Proofs.Session.Conduct
import Shortlink.Proofs.Session.Turns

/-!
# The requests of a session

Which requests are made in a turn, and when the count is shown. A step begins with one request or
with none, and what it does and shows then is settled by the reply to it; in the end the count is
asked for and shown, once, whatever came of the first request, unless nothing was to be done. The
reply to the request for the count is seen in that count and nowhere else.
-/

namespace Shortlink

/-- The count that an event shows. -/
def Effect.count? : Effect → Option Int64
  | .shown (.count n) => some n
  | _ => none

/-- The counts that the events of a trace show, in their order. -/
def shownCounts (trace : List Effect) : List Int64 := trace.filterMap Effect.count?

/-- The request that a command begins with. -/
def Command.request? (server : Server) (panel : Panel) : Command → Option Request
  | .shorten url => server.shortenRequest? url
  | .delete (some key) => server.keyRequest? .delete key
  | .delete none => panel.bind fun link => server.keyRequest? .delete link.key
  | .resolve key => server.keyRequest? .get key
  | .copy | .count | .help | .quit | .empty | .unknown _ => none

/-- Whether a command asks for the count in the end. -/
def Command.counts (panel : Panel) : Command → Bool
  | .shorten url => !Text.isBlankText url
  | .delete (some _) => true
  | .delete none => panel.isSome
  | .count => true
  | .copy | .resolve _ | .help | .quit | .empty | .unknown _ => false

namespace Session

/-- The request that a step begins with. -/
def Step.request? (server : Server) (panel : Panel) : Step → Option Request
  | .shorten input => server.shortenRequest? input
  | .delete key => server.keyRequest? .delete key
  | .deleteCurrent => panel.bind fun link => server.keyRequest? .delete link.key
  | .resolve key => server.keyRequest? .get key
  | .line text => (Command.parse text).request? server panel
  | .refreshCount | .copy _ | .copyCurrent | .notifier _ => none

/-- Whether a step asks for the count in the end. -/
def Step.counts (panel : Panel) : Step → Bool
  | .refreshCount => true
  | .shorten input => !Text.isBlankText input
  | .delete _ => true
  | .deleteCurrent => panel.isSome
  | .line text => (Command.parse text).counts panel
  | .copy _ | .copyCurrent | .resolve _ | .notifier _ => false

/-! ## Traces -/

/-- The requests of two traces come one behind the other. -/
lemma requests_append (trace trace' : List Effect) :
    requests (trace ++ trace') = requests trace ++ requests trace' := List.filterMap_append

/-- The requests of requests are those themselves. -/
lemma requests_map_requested (qs : List Request) : requests (qs.map .requested) = qs := by
  rw [requests, List.filterMap_map]
  exact List.filterMap_some

/-- There is no request among other events. -/
lemma requests_of_local {trace : List Effect} (h : ∀ e ∈ trace, e.isLocal = true) :
    requests trace = [] := by
  rw [requests, List.filterMap_eq_nil_iff]
  intro e mem
  cases e with
  | requested q => cases h _ mem
  | _ => rfl

/-- The counts of two traces come one behind the other. -/
lemma shownCounts_append (trace trace' : List Effect) :
    shownCounts (trace ++ trace') = shownCounts trace ++ shownCounts trace' :=
  List.filterMap_append

/-- There is no count among requests. -/
lemma shownCounts_map_requested (qs : List Request) : shownCounts (qs.map .requested) = [] := by
  rw [shownCounts, List.filterMap_map, List.filterMap_eq_nil_iff]
  exact fun q _ => rfl

/-- There is no count among other events. -/
lemma shownCounts_of_local {trace : List Effect} (h : ∀ e ∈ trace, e.isLocal = true) :
    shownCounts trace = [] := by
  rw [shownCounts, List.filterMap_eq_nil_iff]
  intro e mem
  obtain q | (_ | _ | n) | _ | _ := e
  case shown.count => cases h _ mem
  all_goals rfl

/-! ## The course of a step -/

/-- Asking for the count if it should goes in three parts, of which only the last does anything. -/
lemma conducts_countIf (s : Session) (counts : Bool) : Conducts s (countIf counts) none counts := by
  refine .intro (fun _ => pure ()) (fun _ => pure ()) (fun _ => counts) (.nothing ())
    (fun _ => .pure _) (fun _ => rfl) fun n => ?_
  simp [inParts, run_exchange, onNetwork]

/-- A command begins with its request and asks for the count if it counts. -/
lemma conducts_dispatch (s : Session) (c : Command) :
    Conducts s (Shell.dispatch c) (c.request? s.server s.panel) (c.counts s.panel) := by
  cases c with
  | shorten url => exact (conducts_shorten s url).map fun _ => true
  | delete key? =>
    cases key? with
    | some key => exact (conducts_delete s key).map fun _ => true
    | none => exact (conducts_deleteCurrent s).map fun _ => true
  | copy => exact .of_offline (.bind .copyCurrent fun _ => .pure _) s
  | resolve key => exact (conducts_resolve s key).map fun _ => true
  | count =>
    have asks : Shell.dispatch .count = do countIf true; return true := by
      simp [Shell.dispatch, countIf]
    rw [asks]
    exact (conducts_countIf s true).map fun _ => true
  | help => exact .of_offline (.bind (.emit rfl) fun _ => .pure _) s
  | quit => exact .of_offline (.pure _) s
  | empty => exact .of_offline (.pure _) s
  | unknown line => exact .of_offline (.bind (.notify _) fun _ => .pure _) s

/-- A step other than the count itself goes in three parts. -/
lemma conducts_act {step : Step} (h : step ≠ .refreshCount) (s : Session) :
    Conducts s step.act (step.request? s.server s.panel) (step.counts s.panel) := by
  cases step with
  | refreshCount => exact absurd rfl h
  | shorten input => exact (conducts_shorten s input).map Answer.link
  | delete key => exact (conducts_delete s key).map fun outcome => Answer.removal (some outcome)
  | deleteCurrent => exact (conducts_deleteCurrent s).map Answer.removal
  | copy text => exact .of_offline (.bind (.copy text) fun _ => .pure _) s
  | copyCurrent => exact .of_offline (.bind .copyCurrent fun _ => .pure _) s
  | resolve key => exact (conducts_resolve s key).map Answer.longUrl
  | line text => exact (conducts_dispatch s (Command.parse text)).map Answer.yes
  | notifier call =>
    have called : Offline (onNotifier (Notifier.call call)) :=
      .onNotifier fun _ quiet => quiet.call call
    exact .of_offline (.bind called fun _ => .pure _) s

/-- What is seen where the count is asked for in the end: the request if it is made, and the
count. -/
def refresh (counts : Bool) (count : Traced.Result Network Request Int64) : List Effect :=
  if counts then count.trace.map .requested ++ [.shown (.count count.value)] else []

/-- The request for the count is made if the count is asked for. -/
lemma requests_refresh (counts : Bool) (count : Traced.Result Network Request Int64) :
    requests (refresh counts count) = if counts then count.trace else [] := by
  cases counts with
  | true =>
    rw [refresh, if_pos rfl, requests_append, requests_map_requested]
    exact List.append_nil _
  | false => rfl

/-- The count is shown once if it is asked for. -/
lemma shownCounts_refresh (counts : Bool) (count : Traced.Result Network Request Int64) :
    shownCounts (refresh counts count) = if counts then [count.value] else [] := by
  cases counts with
  | true =>
    rw [refresh, if_pos rfl, shownCounts_append, shownCounts_map_requested]
    rfl
  | false => rfl

/-- Apart from the count itself the same is seen if the same request is made. -/
lemma filter_refresh (counts : Bool) {count count' : Traced.Result Network Request Int64}
    (same : count'.trace = count.trace) :
    (refresh counts count').filter (·.count?.isNone) =
      (refresh counts count).filter (·.count?.isNone) := by
  cases counts with
  | true =>
    rw [refresh, refresh, if_pos rfl, if_pos rfl, List.filter_append, List.filter_append, same]
    rfl
  | false => rfl

/-- The count is asked for over the network as it is then, if at all. -/
lemma run_countIf (counts : Bool) (s : Session) (n : Network) :
    (countIf counts).run (s.onNetwork n) =
      let count := s.server.count.run n
      ⟨(), s.onNetwork (if counts then count.state else n), refresh counts count⟩ := by
  cases counts with
  | true =>
    rw [countIf, if_pos rfl, Traced.run_bind, run_refreshCount, Traced.run_pure, List.append_nil]
    rfl
  | false => rfl

section Addresses

variable {server : Server} {panel : Panel} {q : Request}

/-- The link on the panel lies at a place below the base URL. -/
lemma addresses_of_panel (h : q ∈ panel.bind fun link => server.keyRequest? .delete link.key) :
    server.Addresses q := by
  cases panel with
  | none => cases h
  | some link =>
    rw [Option.bind_some] at h
    exact Server.addresses_keyRequest? h

/-- A command begins with a request to a place below the base URL. -/
lemma addresses_of_command {c : Command} (h : q ∈ c.request? server panel) :
    server.Addresses q := by
  cases c with
  | shorten url => exact Server.addresses_shortenRequest? h
  | delete key? =>
    cases key? with
    | some key => exact Server.addresses_keyRequest? h
    | none => exact addresses_of_panel h
  | resolve key => exact Server.addresses_keyRequest? h
  | _ => cases h

/-- A step begins with a request to a place below the base URL. -/
lemma addresses_of_step {step : Step} (h : q ∈ step.request? server panel) :
    server.Addresses q := by
  cases step with
  | shorten input => exact Server.addresses_shortenRequest? h
  | delete key => exact Server.addresses_keyRequest? h
  | deleteCurrent => exact addresses_of_panel h
  | resolve key => exact Server.addresses_keyRequest? h
  | line text => exact addresses_of_command h
  | _ => cases h

end Addresses

/-- What comes of a step over a network and over all others with the same replies to its first
request. -/
lemma run_act (step : Step) (s : Session) (n : Network) :
    let first := n.made (step.request? s.server s.panel)
    ∃ (x : Answer) (mid : Session) (own : List Effect),
      mid.server = s.server ∧ (∀ e ∈ own, e.isLocal = true) ∧
        ∀ n' : Network, n'.up = n.up → n'.replies.take first.length = n.replies.take first.length →
          let left := n'.behind first.length
          let count := s.server.count.run left
          step.act.run (s.onNetwork n') =
            ⟨if step = .refreshCount then .count count.value else x,
              mid.onNetwork (if step.counts s.panel then count.state else left),
              first.map .requested ++ (own ++ refresh (step.counts s.panel) count)⟩ := by
  intro first
  by_cases h : step = .refreshCount
  · subst h
    -- there is no request in front of the one for the count
    have nothing : first = [] := rfl
    rw [nothing]
    refine ⟨.nothing, s, [], rfl, by simp, fun n' _ _ => ?_⟩
    intro left count
    change (refreshCount >>= fun n => pure (Answer.count n)).run (s.onNetwork n') = _
    rw [Traced.run_bind, run_refreshCount, Traced.run_pure, List.append_nil]
    rfl
  · obtain ⟨x, mid, own, server, isLocal, run⟩ := (conducts_act h s).run n
    refine ⟨x, mid, own, server, isLocal, fun n' up same => ?_⟩
    intro left count
    rw [run n' up same, run_countIf, server, if_neg h]

/-- How a turn goes, with whatever replies after those to its first request. The session behind it
depends on the later ones by its network alone. -/
lemma run_take (s : Session) (t : Turn) :
    let first := s.network.made (t.step.request? s.server s.panel)
    ∃ (x : Answer) (s' : Session) (own hides : List Effect),
      s'.server = s.server ∧ (∀ e ∈ own, e.isLocal = true) ∧
        (∀ e ∈ hides, e = .shown (.notification none)) ∧
        ∀ replies, replies.take first.length = t.replies.take first.length →
          let left : Network := ⟨s.network.up, replies.drop first.length⟩
          let count := s.server.count.run left
          (Turn.take { t with replies }).run s =
            ⟨if t.step = .refreshCount then .count count.value else x,
              s'.onNetwork (if t.step.counts s.panel then count.state else left),
              first.map .requested ++ (own ++ refresh (t.step.counts s.panel) count) ++ hides⟩ := by
  intro first
  have settles : Offline (onNotifier Notifier.settle) := .onNotifier fun _ quiet => quiet.settle
  obtain ⟨x, mid, own, server, isLocal, run⟩ :=
    run_act t.step (t.prepare s) ⟨s.network.up, t.replies⟩
  -- the timer looks at the notifications only, so it does the same whatever the network is
  let last := (onNotifier Notifier.settle).run mid
  refine ⟨x, last.state, own, last.trace, (settles.server mid).trans server, isLocal,
    trace_settle mid, fun replies same => ?_⟩
  intro left count
  have prepared : Turn.prepare { t with replies } s =
    (t.prepare s).onNetwork ⟨s.network.up, replies⟩ := rfl
  have acted := run ⟨s.network.up, replies⟩ rfl same
  simp only [Turn.run_take, prepared, acted, settles.run]
  rfl

/-- Behind every turn the server is the same, and the network is up or down as before. -/
lemma take_server (s : Session) (t : Turn) : (t.take.run s).state.server = s.server := by
  obtain ⟨x, s', own, hides, server, -, -, run⟩ := run_take s t
  rw [run t.replies rfl]
  exact server

/-- A turn leaves the network up or down. -/
lemma take_up (s : Session) (t : Turn) : (t.take.run s).state.network.up = s.network.up := by
  obtain ⟨x, s', own, hides, -, -, -, run⟩ := run_take s t
  rw [run t.replies rfl]
  change (if t.step.counts s.panel then _ else _ : Network).up = _
  split
  · rw [(s.server.asks_count).state]
    rfl
  · rfl

/-- Behind a run the server is the same, and the network is still up or down. -/
lemma takeTurns_stays (ts : List Turn) (s : Session) :
    ((takeTurns ts).run s).state.server = s.server ∧
      ((takeTurns ts).run s).state.network.up = s.network.up :=
  takeTurns_induction (P := fun _ s' => s'.server = s.server ∧ s'.network.up = s.network.up)
    ⟨rfl, rfl⟩
    (fun t _ s' h => ⟨(take_server s' t).trans h.1, (take_up s' t).trans h.2⟩) ts

/-- The requests of a turn behind a run over plain connections: the request that the step begins
with, and then the one for the count if the step asks for it, each of them if a request can be made
for its URL at all. That count is shown once and is the last to be shown: behind it the timer
may hide a message, and nothing else comes. What the server replies to the request for the count is
seen in the count and nowhere else, neither in the answer nor in the session behind the turn nor in
its other events. -/
theorem requests_of_turn (server : Server) (http : server.base.scheme = "http")
    (replies : List Reply) (notifier : Notifier) (clipboardRefusal : Option String)
    (ts : List Turn) (t : Turn) :
    let s := ((takeTurns ts).run (opened server ⟨true, replies⟩ notifier clipboardRefusal)).state
    let made (q? : Option Request) := q?.toList.filter (·.url.isRequestable)
    let first := made (t.step.request? server s.panel)
    let ping := made (some server.countRequest)
    let count := (server.count.run ⟨true, t.replies.drop first.length⟩).value
    let r := t.take.run s
    requests r.trace = first ++ (if t.step.counts s.panel then ping else []) ∧
      shownCounts r.trace = (if t.step.counts s.panel then [count] else []) ∧
      (∃ own hides,
        r.trace = first.map .requested ++ (own ++
          if t.step.counts s.panel then ping.map .requested ++ [.shown (.count count)] else []) ++
            hides ∧
          (∀ e ∈ own, e.isLocal = true) ∧ ∀ e ∈ hides, e = .shown (.notification none)) ∧
      (t.step = .refreshCount → r.value = .count count) ∧
      ∀ later : List Reply, later.take first.length = t.replies.take first.length →
        let r' := (Turn.take { t with replies := later }).run s
        (t.step ≠ .refreshCount → r'.value = r.value) ∧
          r'.state.onNetwork r.state.network = r.state ∧
          r'.trace.filter (·.count?.isNone) = r.trace.filter (·.count?.isNone) := by
  intro s made first ping count r
  obtain ⟨sameServer, up⟩ : s.server = server ∧ s.network.up = true := takeTurns_stays ts _
  have reached {n : Network} (up : n.up = true) {q? : Option Request}
      (addressed : ∀ q ∈ q?, server.Addresses q) : n.made q? = made q? := by
    refine List.filter_congr fun q mem => Network.connects_of_http up ?_
    exact (addressed q (Option.mem_toList.1 mem)).scheme.trans http
  obtain ⟨x, s', own, hides, -, isLocal, isHide, run⟩ := run_take s t
  rw [sameServer, reached up fun _ => addresses_of_step, up] at run
  -- what the request for the count is does not depend on its reply
  have pinged (replies : List Reply) : (server.count.run ⟨true, replies⟩).trace = ping := by
    rw [(server.asks_count).trace, reached rfl]
    rintro q ⟨⟩
    exact Server.addresses_countRequest
  have taken : r = _ := run t.replies rfl
  have localHides : ∀ e ∈ hides, e.isLocal = true := fun e mem => isHide e mem ▸ rfl
  refine ⟨?_, ?_, ⟨own, hides, ?_, isLocal, isHide⟩, fun asks => ?_, fun later same => ?_⟩
  · simp only [taken, requests_append, requests_map_requested, requests_of_local isLocal,
      requests_of_local localHides, requests_refresh, pinged, List.nil_append, List.append_nil]
    rfl
  · simp only [taken, shownCounts_append, shownCounts_map_requested, shownCounts_of_local isLocal,
      shownCounts_of_local localHides, shownCounts_refresh, List.nil_append, List.append_nil]
    rfl
  · rw [taken, refresh, pinged]
  · simp only [taken, if_pos asks]
    rfl
  · intro r'
    have taken' : r' = _ := run later same
    have sent : (server.count.run ⟨true, later.drop first.length⟩).trace =
        (server.count.run ⟨true, t.replies.drop first.length⟩).trace := by rw [pinged, pinged]
    rw [taken', taken]
    refine ⟨fun other => ?_, rfl, ?_⟩
    · simp only [if_neg other]
    · rw [List.filter_append, List.filter_append, List.filter_append, List.filter_append,
        List.filter_append, List.filter_append, filter_refresh _ sent]

/-- A key with a blank in it is sent, and the count is asked for though no response comes. -/
theorem requests_of_hung_delete :
    ∃ s, Server.ofUrl "http://localhost:8080/api" = .ok s ∧ s.base.scheme = "http" ∧
      let r := (Turn.take { step := .delete "a b", replies := [.hung] }).run
        (opened s ⟨true, []⟩ { duration := 2500 } none)
      (requests r.trace).map (fun q => (q.method, q.target)) =
          [(.delete, "http://localhost:8080/api/a%20b"), (.get, "http://localhost:8080/api/ping")] ∧
        shownCounts r.trace = [-1] := by
  let base : Url :=
    ⟨"http", some ⟨"", none, "localhost", some 8080⟩, false, .segments ["api"], none, none⟩
  have accepted : Server.ofUrl "http://localhost:8080/api" = .ok ⟨base, rfl⟩ := rfl
  refine ⟨_, accepted, rfl, ?_⟩
  intro r
  have ⟨made, shown, _⟩ := requests_of_turn ⟨base, rfl⟩ rfl [] { duration := 2500 } none []
    { step := .delete "a b", replies := [.hung] }
  have made : requests r.trace = _ := made
  have shown : shownCounts r.trace = _ := shown
  rw [made, shown]
  exact ⟨by decide +kernel, by decide +kernel⟩

/-- Nothing is asked of a server whose host has a quote in it, though it would know the key. -/
theorem unrequested_of_quoted_host :
    let found : Reply := .response ⟨302, [("location", "http://x/")], [], false⟩
    ∃ s, Server.ofUrl "http://a\"b" = .ok s ∧ s.base.scheme = "http" ∧
      (Step.resolve "k").request? s none = some ⟨.get, s.keyUrl "k", none⟩ ∧
        requests ((Turn.take { step := .resolve "k", replies := [found] }).run
          (opened s ⟨true, []⟩ { duration := 2500 } none)).trace = [] := by
  let base : Url := ⟨"http", some ⟨"", none, "a\"b", none⟩, false, .segments [""], none, none⟩
  intro found
  have accepted : Server.ofUrl "http://a\"b" = .ok ⟨base, rfl⟩ := rfl
  exact ⟨_, accepted, rfl, rfl, rfl⟩

end Session

end Shortlink

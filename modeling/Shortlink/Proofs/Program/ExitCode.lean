import Shortlink.Program
import Shortlink.Proofs.Session.Conduct
import Shortlink.Proofs.Session.Output
import Shortlink.Proofs.Shell

/-!
# The exit code

A run that starts leaves with 0 exactly if its task succeeds, and with 1 otherwise. For a task with
a single action that is a matter of the first reply; a shell succeeds if it can read its lines,
whatever comes of them; and to ask for the count always succeeds. Where a task fails, a line tells
why: it is the error line of the run, or a notification in its output.
-/

namespace Shortlink

/-- A task succeeds, given the response to its first request if there is one. -/
inductive Task.Succeeds (response? : Option Response) (input : List UInt8) : Task → Prop
  | count : Succeeds response? input .count
  | shorten {url r link} :
    Text.isBlankText url = false → response? = some r → r.Carries link →
    Succeeds response? input (.shorten url)
  | delete {key r} :
    Text.isBlankText key = false → response? = some r → r.status = 200 ∨ r.status = 404 →
    Succeeds response? input (.delete key)
  | resolve {key r url} :
    Text.isBlankText key = false → response? = some r → r.Leads url →
    Succeeds response? input (.resolve key)
  | interactive :
    (∀ line ∈ Shell.linesRead (Shell.splitLines input), Shell.IsText line) →
    Succeeds response? input .interactive

namespace Task

/-- The request whose reply decides whether a task succeeds. -/
def request? (server : Server) : Task → Option Request
  | .shorten url => server.shortenRequest? url
  | .delete key => server.keyRequest? .delete key
  | .resolve key => server.keyRequest? .get key
  | .count | .interactive => none

/-- The response that decides, out of the replies of a network: the first one, if the request is
made at all. -/
def response? (server : Server) (n : Network) (task : Task) : Option Response :=
  (task.request? server).bind fun q =>
    if q.url.isRequestable then n.next.1.response? else none

/-- Why a task fails, in the words of its notification. -/
def complaint? (server : Server) (n : Network) : Task → Option String
  | .shorten url =>
    match ((server.shorten url).run n).value with
    | .ok _ => none
    | .error e => some e.userMessage
  | .delete key =>
    if ((server.remove key).run n).value = .failed then some Session.deleteFailedMessage else none
  | .resolve key =>
    match ((server.resolve key).run n).value with
    | .ok (some _) => none
    | .ok none => some Session.notFoundMessage
    | .error e => some e.userMessage
  | .count | .interactive => none

section Actions

variable (s : Session) (input : List UInt8)

/-- Shortening announces what has become of the URL, and succeeds if it is a link. -/
lemma announces_shorten (url : String) :
    let answer := ((s.server.shorten url).run s.network).value
    Session.Announces ((Task.shorten url).run input) s (.ok answer.toOption.isSome)
      (Session.linkMessage answer) :=
  (Session.announces_shorten s url).map fun link? => Except.ok link?.isSome

/-- Deleting announces what has become of the link, and succeeds if it is gone. -/
lemma announces_delete (key : Key) :
    let outcome := ((s.server.remove key).run s.network).value
    Session.Announces ((Task.delete key).run input) s (.ok (outcome != .failed))
      (Session.removalMessage outcome) :=
  (Session.announces_delete s key).map fun outcome => Except.ok (outcome != .failed)

/-- Looking a key up announces its long URL, and succeeds if there is one. -/
lemma announces_resolve (key : Key) :
    let answer := ((s.server.resolve key).run s.network).value
    Session.Announces ((Task.resolve key).run input) s (.ok answer.toOption.join.isSome)
      (Session.longUrlMessage key answer) :=
  (Session.announces_resolve s key).map fun url? => Except.ok url?.isSome

end Actions

/-- A run succeeds exactly if its task does, given the response to its request. -/
lemma run_ok_true_iff (task : Task) (input : List UInt8) (s : Session) {response? : Option Response}
    (response : ∀ q ∈ task.request? s.server, s.network.response? q.url = response?) :
    ((task.run input).run s).value = .ok true ↔ task.Succeeds response? input := by
  cases task with
  | count => exact ⟨fun _ => .count, fun _ => rfl⟩
  | shorten url =>
    have shortens : ((s.server.shorten url).run s.network).value.toOption.isSome = true ↔
        ∃ link, ((s.server.shorten url).run s.network).value = .ok link := by
      cases ((s.server.shorten url).run s.network).value <;> simp [Except.toOption]
    have own (full : Text.isBlankText url = false) :
        s.network.response? s.server.linksUrl = response? :=
      response _ (if_neg (by simp [full]))
    rw [(announces_shorten s input url).value, Except.ok.injEq, shortens]
    constructor
    · rintro ⟨link, h⟩
      obtain ⟨full, r, answered, carries⟩ := Server.shorten_ok_iff.1 h
      exact .shorten full (own full ▸ answered) carries
    · rintro (_ | ⟨full, answered, carries⟩)
      exact ⟨_, Server.shorten_ok_iff.2 ⟨full, _, (own full).trans answered, carries⟩⟩
  | delete key =>
    have removes (o : Removal) : (o != .failed) = true ↔ o.isGone = true := by cases o <;> decide
    have own (full : Text.isBlankText key = false) :
        s.network.response? (s.server.keyUrl key) = response? :=
      response _ (if_neg (by simp [full]))
    rw [(announces_delete s input key).value, Except.ok.injEq, removes, Server.remove_isGone_iff]
    constructor
    · rintro ⟨full, r, answered, gone⟩
      exact .delete full (own full ▸ answered) gone
    · rintro (_ | _ | ⟨full, answered, gone⟩)
      exact ⟨full, _, (own full).trans answered, gone⟩
  | resolve key =>
    have finds : ((s.server.resolve key).run s.network).value.toOption.join.isSome = true ↔
        ∃ url, ((s.server.resolve key).run s.network).value = .ok (some url) := by
      obtain e | _ | url := ((s.server.resolve key).run s.network).value <;> simp [Except.toOption]
    have own (full : Text.isBlankText key = false) :
        s.network.response? (s.server.keyUrl key) = response? :=
      response _ (if_neg (by simp [full]))
    rw [(announces_resolve s input key).value, Except.ok.injEq, finds]
    constructor
    · rintro ⟨url, h⟩
      obtain ⟨full, r, answered, leads⟩ := Server.resolve_some_iff.1 h
      exact .resolve full (own full ▸ answered) leads
    · rintro (_ | _ | _ | ⟨full, answered, leads⟩)
      exact ⟨_, Server.resolve_some_iff.2 ⟨full, _, (own full).trans answered, leads⟩⟩
  | interactive =>
    have reads : ((Task.interactive.run input).run s).value = .ok true ↔
        ((Shell.run input).run s).value = .ok () := by
      rw [run, Traced.run_bind, Traced.run_pure]
      cases ((Shell.run input).run s).value <;> simp [Except.map]
    rw [reads, Shell.run_ok_iff]
    exact ⟨.interactive, fun (.interactive h) => h⟩

/-- The notification of a task that fails tells why. -/
lemma complains {task : Task} {input : List UInt8} {s : Session}
    (h : ((task.run input).run s).value = .ok false) :
    ∃ why, task.complaint? s.server s.network = some why ∧ why ≠ "" ∧
      notices ((task.run input).run s).trace = [why] := by
  cases task with
  | count => cases h
  | shorten url =>
    have ⟨value, shows, _⟩ := announces_shorten s input url
    have full := (Session.linkMessage_tells s.server url s.network).1
    rw [value] at h
    cases answer : ((s.server.shorten url).run s.network).value with
    | ok link => rw [answer] at h; cases h
    | error e =>
      rw [answer] at shows full
      exact ⟨e.userMessage, by simp only [complaint?, answer], full, shows⟩
  | delete key =>
    have ⟨value, shows, _⟩ := announces_delete s input key
    have full := Session.removalMessage_ne_empty ((s.server.remove key).run s.network).value
    rw [value] at h
    have failed : ((s.server.remove key).run s.network).value = .failed := by
      simpa using Except.ok.inj h
    rw [failed] at shows full
    exact ⟨Session.deleteFailedMessage, by simp only [complaint?, failed, if_true], full, shows⟩
  | resolve key =>
    have ⟨value, shows, _⟩ := announces_resolve s input key
    have full := Session.longUrlMessage_ne_empty s.server key s.network
    rw [value] at h
    cases answer : ((s.server.resolve key).run s.network).value with
    | error e =>
      rw [answer] at shows full
      exact ⟨e.userMessage, by simp only [complaint?, answer], full, shows⟩
    | ok url? =>
      cases url? with
      | none =>
        rw [answer] at shows full
        exact ⟨Session.notFoundMessage, by simp only [complaint?, answer], full, shows⟩
      | some url => rw [answer] at h; cases h
  | interactive =>
    rw [run, Traced.run_bind, Traced.run_pure] at h
    cases read : ((Shell.run input).run s).value with
    | error e => rw [read] at h; cases h
    | ok u => rw [read] at h; cases h

/-- The request of a task goes below the URL of the server. -/
lemma addresses_of_request? {task : Task} {server : Server} {q : Request}
    (h : q ∈ task.request? server) : server.Addresses q := by
  cases task with
  | shorten url => exact Server.addresses_shortenRequest? h
  | delete key => exact Server.addresses_keyRequest? h
  | resolve key => exact Server.addresses_keyRequest? h
  | count => cases h
  | interactive => cases h

/-- Over plain connections the request of a task gets the response that decides. -/
lemma response?_of_mem {task : Task} {server : Server} {n : Network} {q : Request}
    (up : n.up = true) (http : server.base.scheme = "http") (h : q ∈ task.request? server) :
    n.response? q.url = task.response? server n := by
  rw [response?, Option.mem_def.1 h, Option.bind_some, Network.response?_of_http up]
  exact (addresses_of_request? h).scheme.trans http

/-- It is the first reply that matters, if the task makes a request, and none otherwise. -/
lemma response?_congr {task : Task} {server : Server} {n n' : Network}
    (same : n'.replies.take (task.request? server).toList.length =
      n.replies.take (task.request? server).toList.length) :
    task.response? server n' = task.response? server n := by
  rw [response?, response?]
  cases request : task.request? server with
  | none => rfl
  | some q =>
    have heads := congrArg List.head? same
    have first : n'.next.1 = n.next.1 :=
      Network.next_congr (by simpa [request, List.head?_take] using heads)
    rw [first]

end Task

/-! ## Runs -/

namespace Program

/-- Settings that make a session over one network make it over any other. -/
lemma session_onNetwork [Url.DomainRules] {settings : Settings} {n : Network} {s : Session}
    (h : session settings n = .ok s) (n' : Network) :
    s.network = n ∧ session settings n' = .ok (s.onNetwork n') := by
  rw [session] at h ⊢
  cases server : Server.ofUrl settings.serverUrl with
  | error e =>
    rw [server] at h
    cases h
  | ok server =>
    rw [server] at h
    cases h
    exact ⟨rfl, rfl⟩

/-- A run starts exactly if its arguments, its settings and its server are all fine. -/
lemma start_ok_iff [Url.DomainRules] {s : Surroundings} {task : Task} {session' : Session} :
    start s = .ok (task, session') ↔
      ∃ a settings', Arguments.parse s.args = .ok a ∧ settings s a = .ok settings' ∧
        session settings' s.network = .ok session' ∧ a.task.getD .interactive = task := by
  rw [start]
  cases Arguments.parse s.args with
  | error e => simp [bind, Except.bind, Except.mapError]
  | ok a =>
    cases loaded : settings s a with
    | error e => simp [bind, Except.bind, Except.mapError, loaded]
    | ok settings' =>
      cases made : session settings' s.network with
      | error e => simp [bind, Except.bind, Except.mapError, loaded, made]
      | ok session' =>
        simp [bind, Except.bind, Except.mapError, loaded, made, pure, Except.pure, and_comm]

/-- With another network a run starts in the same way. -/
lemma start_onNetwork [Url.DomainRules] {s : Surroundings} {task : Task} {session : Session}
    (h : start s = .ok (task, session)) (n : Network) :
    session.network = s.network ∧
      start { s with network := n } = .ok (task, session.onNetwork n) := by
  obtain ⟨a, settings', parsed, loaded, made, named⟩ := start_ok_iff.1 h
  obtain ⟨network, again⟩ := session_onNetwork made n
  exact ⟨network, start_ok_iff.2 ⟨a, settings', parsed, loaded, again, named⟩⟩

/-- What a run makes of its task. -/
lemma run_of_start [Url.DomainRules] {s : Surroundings} {task : Task} {session : Session}
    (h : start s = .ok (task, session)) :
    let r := (task.run s.input).run session
    (run s).trace = r.trace ∧ ((run s).exitCode = 0 ∨ (run s).exitCode = 1) ∧
      ((run s).exitCode = 0 ↔ r.value = .ok true) ∧
      ((run s).exitCode = 1 → (run s).errorLine = none → r.value = .ok false) := by
  rw [run, h]
  simp only
  obtain e | _ | _ := ((task.run s.input).run session).value <;> simp

/-- There are but two exit codes of a run that starts. -/
lemma eq_of_zero_iff {a b : UInt32} (ha : a = 0 ∨ a = 1) (hb : b = 0 ∨ b = 1)
    (same : a = 0 ↔ b = 0) : a = b := by
  rcases ha with rfl | rfl
  · exact (same.1 rfl).symm
  · rcases hb with rfl | rfl
    · exact same.2 rfl
    · rfl

/-- A run that starts leaves with 0 exactly if its task succeeds. -/
lemma exitCode_iff [Url.DomainRules] {s : Surroundings} {task : Task} {session : Session}
    (h : start s = .ok (task, session)) (http : session.server.base.scheme = "http")
    (up : s.network.up = true) :
    (run s).exitCode = 0 ↔ task.Succeeds (task.response? session.server s.network) s.input := by
  obtain ⟨network, -⟩ := start_onNetwork h s.network
  obtain ⟨-, -, succeeds, -⟩ := run_of_start h
  rw [succeeds, Task.run_ok_true_iff task s.input session]
  intro q asked
  rw [network]
  exact Task.response?_of_mem up http asked

/-- A run that starts, over plain connections. It leaves with 0 if its task succeeds and with 1
otherwise; its first request has a response only if one can be made for its URL at all. The later
replies, those to the requests for the count among them, never change the exit code, and neither
does any reply where the task makes no request of its own. A run that leaves with 1 and has no error
line has printed a notification that tells why. -/
theorem exitCode_of_start [Url.DomainRules] {s : Surroundings} {task : Task} {session : Session}
    (started : start s = .ok (task, session)) (http : session.server.base.scheme = "http")
    (up : s.network.up = true) :
    let r := run s
    let response? := task.response? session.server s.network
    let used := (task.request? session.server).toList.length
    (r.exitCode = 0 ↔ task.Succeeds response? s.input) ∧
      (r.exitCode ≠ 0 → r.exitCode = 1) ∧
      (∀ later : List Reply, later.take used = s.network.replies.take used →
        (run { s with network := ⟨true, later⟩ }).exitCode = r.exitCode) ∧
      (r.exitCode = 1 → r.errorLine = none →
        ∃ why front back, task.complaint? session.server s.network = some why ∧ why ≠ "" ∧
          output r.trace = front ++ (">> " ++ why ++ "\n") ++ back ∧ IsLines front) := by
  intro r response? used
  obtain ⟨trace, codes, -, fails⟩ := run_of_start started
  have succeeds : r.exitCode = 0 ↔ task.Succeeds response? s.input := exitCode_iff started http up
  refine ⟨succeeds, codes.resolve_left, fun later same => ?_, fun failed silent => ?_⟩
  · -- both runs leave with 0 under the same condition, since it asks for the first reply only
    obtain ⟨-, again⟩ := start_onNetwork started ⟨true, later⟩
    obtain ⟨-, codes', -⟩ := run_of_start again
    have answered : task.response? session.server ⟨true, later⟩ = response? :=
      Task.response?_congr same
    have succeeds' : (run { s with network := ⟨true, later⟩ }).exitCode = 0 ↔ r.exitCode = 0 := by
      rw [exitCode_iff again http rfl, succeeds]
      exact iff_of_eq (congrArg (task.Succeeds · s.input) answered)
    exact eq_of_zero_iff codes' codes succeeds'
  · -- without an error line it is the task that has failed
    obtain ⟨network, -⟩ := start_onNetwork started s.network
    obtain ⟨why, complaint, full, shown⟩ := Task.complains (fails failed silent)
    have mem : why ∈ notices r.trace := by
      rw [trace, shown]
      exact List.mem_singleton_self why
    obtain ⟨front, back, printed, lines⟩ := output_of_notice mem
    exact ⟨why, front, back, network ▸ complaint, full, printed, lines⟩

/-- A key that the server does not know counts as deleted. -/
theorem exitCode_of_unknown_key :
    let unknown : Response := ⟨404, [], [], false⟩
    let s : Surroundings := {
      args := ["delete", "k"], env := fun _ => none, files := fun _ => none, input := []
      network := ⟨true, [.response unknown]⟩ }
    ∃ session, start s = .ok (.delete "k", session) ∧ (run s).exitCode = 0 := by
  intro unknown s
  let base : Url :=
    ⟨"http", some ⟨"", none, "localhost", some 8080⟩, false, .segments [""], none, none⟩
  let session : Session := {
    server := ⟨base, rfl⟩, network := ⟨true, [.response unknown]⟩
    notifier := { duration := 2500 } }
  have accepted : Server.ofUrl "http://localhost:8080" = .ok ⟨base, rfl⟩ := rfl
  have made : Program.session {} s.network = .ok session := by
    rw [Program.session, accepted]
    rfl
  have started : start s = .ok (.delete "k", session) :=
    start_ok_iff.2
      ⟨{ task := some (.delete "k") }, {}, by decide +kernel, by decide +kernel, made, rfl⟩
  have answered : (Task.delete "k").response? session.server s.network = some unknown := by
    decide +kernel
  exact ⟨session, started,
    (exitCode_of_start started rfl rfl).1.2 (.delete (by decide) answered (.inr rfl))⟩

/-- A run fails for a host with a quote in it, though the server would answer with a link. -/
theorem exitCode_of_quoted_host :
    let body := "\x7b\"key\":\"k\",\"short_url\":\"http://s/k\"\x7d"
    let resp : Response := ⟨201, [], Text.Utf8.encode body.toList, false⟩
    let s : Surroundings := {
      args := ["--server-url", "http://a\"b", "shorten", "https://e.x/"], env := fun _ => none
      files := fun _ => none, input := [], network := ⟨true, [.response resp]⟩ }
    ∃ session, start s = .ok (.shorten "https://e.x/", session) ∧
      session.server.base.scheme = "http" ∧ resp.Carries ⟨"k", "http://s/k", true, none⟩ ∧
      (run s).exitCode = 1 := by
  intro body resp s
  let base : Url := ⟨"http", some ⟨"", none, "a\"b", none⟩, false, .segments [""], none, none⟩
  let session : Session := {
    server := ⟨base, rfl⟩, network := ⟨true, [.response resp]⟩, notifier := { duration := 2500 } }
  have accepted : Server.ofUrl "http://a\"b" = .ok ⟨base, rfl⟩ := rfl
  have made : Program.session { serverUrl := "http://a\"b" } s.network = .ok session := by
    rw [Program.session, accepted]
    rfl
  have started : start s = .ok (.shorten "https://e.x/", session) :=
    start_ok_iff.2
      ⟨⟨{ serverUrl := some "http://a\"b" }, none, some (.shorten "https://e.x/")⟩,
        { serverUrl := "http://a\"b" }, by decide +kernel, by decide +kernel, made, rfl⟩
  have arrived : resp.text? = some body := by decide +kernel
  have read : LinkReply.read body.toList = .ok ⟨some "k", some "http://s/k", none⟩ := by
    decide +kernel
  have carries : resp.Carries ⟨"k", "http://s/k", true, none⟩ := .intro rfl arrived read
  have failed : (run s).exitCode = 1 := by decide +kernel
  exact ⟨session, started, rfl, carries, failed⟩

end Program

end Shortlink

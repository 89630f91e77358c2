import Shortlink.Proofs.Command
import Shortlink.Proofs.Session.Panel
import Shortlink.Proofs.Shell.Run

/-!
# Deleting the link on the panel

There are two ways to delete the link that the panel shows: by a line without a key, and by one with
the key as it is shown. A server can answer with any text for a key, and the panel takes it as it
is. So both ways lead to the removal of the link exactly if a request can be made for the URL of the
key, and the key is typed in one line and read back from it: a blank key is never sent, and neither
is one whose URL is too long; the blanks around a key are lost where it is typed; and at a line feed
the shell begins another line.
-/

namespace Shortlink

/-- The requests of a trace that ask for something to be removed. -/
def removals (trace : List Effect) : List Request :=
  (requests trace).filter (·.method = .delete)

/-- A request about the link of a key goes out, if there is a connection. -/
def Server.Sends (server : Server) (key : Key) : Prop :=
  Text.isBlankText key = false ∧ (server.keyUrl key).isRequestable = true

namespace Session

/-- Carries out what is read of a text that is typed into the shell. -/
def enter (text : String) : Action (Except Shell.InputError Unit) :=
  Shell.runLines (Shell.splitLines (Shell.typed text))

/-- A response that says that the link is gone comes first. -/
def IsGone (replies : List Reply) : Prop :=
  ∃ r, replies.head?.bind Reply.response? = some r ∧ (r.status = 200 ∨ r.status = 404)

/-- Both ways to delete a link are lines of the shell and do so, whatever replies there are: the
same single request asks for it, and the one clears the panel if the other does. -/
def OffersDeletion (s : Session) (link : ShortLink) : Prop :=
  Shell.IsLine "delete" ∧ Shell.IsLine ("delete " ++ link.key) ∧
    ∀ replies : List Reply,
      let s' := s.onNetwork ⟨s.network.up, replies⟩
      let r := (enter "delete").run s'
      let r' := (enter ("delete " ++ link.key)).run s'
      ∃ q, removals r.trace = [q] ∧ removals r'.trace = [q] ∧
        (r'.state.panel = none ↔ r.state.panel = none)

/-! ## Typing -/

/-- A line is carried out as the command that it asks for. -/
lemma enter_of_not_mem {text : String} (one : '\n' ∉ text.toList) :
    enter text = Shell.dispatch (Command.parse text) >>= fun _ => pure (.ok ()) := by
  have line : Shell.splitLines (Shell.typed text) = [Text.Utf8.encode text.toList] :=
    Shell.isLine_iff.2 one
  simp only [enter, line, Shell.runLines_cons, Shell.command?_encode, Shell.runLines, ite_self]

/-- Behind a line feed the shell goes on with the rest, unless it has been asked to leave. -/
lemma enter_append {front : String} (one : '\n' ∉ front.toList) (back : String) :
    enter (front ++ "\n" ++ back) =
      Shell.dispatch (Command.parse front) >>= fun goesOn =>
        if goesOn then enter back else return .ok () := by
  rw [enter, Shell.splitLines_typed_append one, Shell.runLines_cons, Shell.command?_encode]
  rfl

/-! ## Removals -/

/-- Whoever has put a link on the panel has been connected to the server. -/
lemma reaches_of_panel {server : Server} {network : Network} {notifier : Notifier}
    {clipboardRefusal : Option String} (ts : List Turn) :
    let s := ((takeTurns ts).run (opened server network notifier clipboardRefusal)).state
    s.panel ≠ none → s.network.up = true ∧ s.server.base.scheme = "http" := by
  refine takeTurns_induction
    (P := fun _ s => s.panel ≠ none → s.network.up = true ∧ s.server.base.scheme = "http")
    (fun held => absurd rfl held) (fun t _ s reached held => ?_) ts
  rw [take_up s t, take_server]
  obtain ⟨us, p, ⟨-, part⟩, affects⟩ := affects_take t s
  rw [show (t.take.run s).state.panel = p from part] at held
  cases affects with
  | shows _ brings =>
    obtain ⟨-, r, answer, -⟩ := brings
    rw [Network.response?] at answer
    split at answer
    · next connected =>
      rw [Network.connects, Network.reaches, Bool.and_eq_true, Bool.and_eq_true,
        decide_eq_true_eq, Server.linksUrl, Url.below_scheme] at connected
      exact connected.2
    · cases answer
  | clears => exact absurd rfl held
  | keeps => exact reached held

/-- The first request of an action is the only one that can remove something. -/
lemma Conducts.removals {α : Type} {s : Session} {m : Action α} {q? : Option Request}
    {counts : Bool} (h : Conducts s m q? counts) :
    removals (m.run s).trace = (s.network.made q?).filter (·.method = .delete) := by
  obtain ⟨x, mid, own, server, isLocal, run⟩ := h.run s.network
  have count (n : Network) : (mid.server.count.run n).trace.filter (·.method = .delete) = [] := by
    rw [(mid.server.asks_count).trace, Network.made, List.filter_filter]
    simp [Server.countRequest]
  have whole := run s.network rfl rfl
  rw [show s.onNetwork s.network = s from rfl] at whole
  simp only [whole, run_countIf, Shortlink.removals, requests_append, requests_map_requested,
    requests_of_local isLocal, requests_refresh, List.filter_append, List.nil_append]
  split
  · exact (congrArg _ (count _)).trans (List.append_nil _)
  · exact List.append_nil _

/-- An action that deletes the link of a key clears the panel exactly if the link is gone and on
it. -/
lemma Handles.panel_eq_none_iff {α : Type} {s : Session} {m : Action α} {link : ShortLink}
    {key : Key} (h : Handles m s none (some key)) (held : s.panel = some link) :
    (m.run s).state.panel = none ↔ s.Removes key ∧ link.key = key := by
  obtain ⟨us, p, ⟨-, part⟩, affects⟩ := h
  rw [show (m.run s).state.panel = p from part]
  cases affects with
  | shows asked => cases asked
  | clears asked removes held' same =>
    cases asked
    cases held.symm.trans held'
    exact iff_of_true rfl ⟨removes, same⟩
  | keeps _ kept =>
    refine iff_of_false (fun none => ?_) (fun ⟨removes, same⟩ => ?_)
    · cases held.symm.trans none
    · exact kept key link rfl removes held same

/-- Over plain connections the link of a key is gone if the request is sent and the server says
so. -/
lemma removes_iff {s : Session} (up : s.network.up = true) (http : s.server.base.scheme = "http")
    (key : Key) : s.Removes key ↔ s.server.Sends key ∧ IsGone s.network.replies := by
  have plain : (s.server.keyUrl key).scheme = "http" := (s.server.base.below_scheme _).trans http
  have first : s.network.next.1.response? = s.network.replies.head?.bind Reply.response? := by
    rw [Network.next]
    cases s.network.replies <;> rfl
  rw [Removes, Server.Sends, IsGone, Network.response?_of_http up plain, first, and_assoc]
  refine and_congr_right' ?_
  cases (s.server.keyUrl key).isRequestable <;> simp

section Ways

variable {s : Session} (up : s.network.up = true) (http : s.server.base.scheme = "http")
  {link : ShortLink} (held : s.panel = some link)

include up http held

/-- What a command does that deletes the link of a key while a link is on the panel. -/
lemma dispatch_delete {key? : Option Key} {key : Key}
    (meant : (Command.delete key?).deletes? s.panel = some key) :
    let r := (Shell.dispatch (.delete key?)).run s
    removals r.trace =
        (s.server.keyRequest? .delete key).toList.filter (·.url.isRequestable) ∧
      (r.state.panel = none ↔
        (s.server.Sends key ∧ IsGone s.network.replies) ∧ link.key = key) := by
  have request : (Command.delete key?).request? s.server s.panel =
      s.server.keyRequest? .delete key := by
    cases key? with
    | some key => cases meant; rfl
    | none => rw [held] at meant ⊢; cases meant; rfl
  have removes := (handles_dispatch s (.delete key?))
  rw [meant] at removes
  refine ⟨?_, (removes.panel_eq_none_iff held).trans (and_congr_left' (removes_iff up http key))⟩
  rw [(conducts_dispatch s (.delete key?)).removals, request, Network.made,
    Server.keyRequest?]
  split
  · rfl
  · have plain : (s.server.keyUrl key).scheme = "http" :=
      (s.server.base.below_scheme _).trans http
    simp [List.filter_cons, Network.connects_of_http up plain]

/-- The line without a key. -/
lemma enter_delete {server : Server} (same : s.server = server) :
    let r := (enter "delete").run s
    removals r.trace =
        (server.keyRequest? .delete link.key).toList.filter (·.url.isRequestable) ∧
      (r.state.panel = none ↔ server.Sends link.key ∧ IsGone s.network.replies) := by
  subst same
  have meant : (Command.delete none).deletes? s.panel = some link.key := by rw [held]; rfl
  obtain ⟨trace, panel⟩ := dispatch_delete up http held meant
  rw [enter_of_not_mem (by decide), show Command.parse "delete" = .delete none by decide,
    Traced.run_bind, Traced.run_pure, List.append_nil]
  exact ⟨trace, panel.trans (and_iff_left rfl)⟩

/-- The line with the key, if the key is typed in one line. -/
lemma enter_delete_key {server : Server} (same : s.server = server)
    (one : '\n' ∉ link.key.toList) :
    let r := (enter ("delete " ++ link.key)).run s
    removals r.trace =
        (server.keyRequest? .delete (Text.trim link.key)).toList.filter (·.url.isRequestable) ∧
      (r.state.panel = none ↔
        server.Sends link.key ∧ IsGone s.network.replies ∧ Text.trim link.key = link.key) := by
  subst same
  have line : '\n' ∉ ("delete " ++ link.key).toList := by simpa using one
  have meant : (Command.parse ("delete " ++ link.key)).deletes? s.panel =
      some (if Text.isBlankText link.key then link.key else Text.trim link.key) := by
    rw [Command.parse_delete, held]
    split <;> rfl
  rw [Command.parse_delete] at meant
  obtain ⟨trace, panel⟩ := dispatch_delete up http held meant
  rw [enter_of_not_mem line, Command.parse_delete, Traced.run_bind, Traced.run_pure,
    List.append_nil]
  cases blank : Text.isBlankText link.key with
  | true =>
    -- what is left of the line has no key, and the one on the panel is not sent
    rw [blank, if_pos rfl, if_pos rfl, Server.keyRequest?, if_pos blank] at trace
    rw [blank, if_pos rfl, if_pos rfl, Server.Sends, blank] at panel
    rw [if_pos rfl, Server.keyRequest?, Text.isBlankText_trim, if_pos blank, Server.Sends, blank]
    refine ⟨trace, panel.trans (iff_of_false ?_ ?_)⟩
    · rintro ⟨⟨⟨full, -⟩, -⟩, -⟩
      cases full
    · rintro ⟨⟨full, -⟩, -⟩
      cases full
  | false =>
    rw [blank, if_neg (by simp), if_neg (by simp)] at trace panel
    rw [if_neg (by simp)]
    refine ⟨trace, panel.trans ?_⟩
    rw [and_assoc]
    constructor
    · rintro ⟨sends, gone, same⟩
      exact ⟨same ▸ sends, gone, same.symm⟩
    · rintro ⟨sends, gone, same⟩
      rw [same]
      exact ⟨sends, gone, rfl⟩

end Ways

/-- A link that is on the panel behind any run of turns is deleted in both ways exactly if a request
about its key goes out, the key has no blanks around it, and it has no line feed. The way without a
key makes one request if there is a key and one can be made for its URL, and clears the panel
exactly if it does and the server answers that the link is gone. If the key has no line feed the way
with the key asks for the key without the blanks around it, and it clears the panel as the other one
does if there are none, and never otherwise. At a line feed in the key the shell ends the line, and
goes on with what follows. -/
theorem offersDeletion_iff (server : Server) (network : Network) (notifier : Notifier)
    (clipboardRefusal : Option String) (ts : List Turn) (link : ShortLink) :
    let s := ((takeTurns ts).run (opened server network notifier clipboardRefusal)).state
    s.panel = some link →
      let sent := server.Sends link.key
      let own := Text.trim link.key = link.key
      let one := '\n' ∉ link.key.toList
      (s.OffersDeletion link ↔ sent ∧ own ∧ one) ∧
        (∀ replies : List Reply,
          let s' := s.onNetwork ⟨s.network.up, replies⟩
          let r := (enter "delete").run s'
          let r' := (enter ("delete " ++ link.key)).run s'
          let sendable (q? : Option Request) := q?.toList.filter (·.url.isRequestable)
          removals r.trace = sendable (server.keyRequest? .delete link.key) ∧
            (r.state.panel = none ↔ sent ∧ IsGone replies) ∧
            (one → removals r'.trace = sendable (server.keyRequest? .delete (Text.trim link.key)) ∧
              (r'.state.panel = none ↔ sent ∧ IsGone replies ∧ own))) ∧
        ∀ front back, link.key = front ++ "\n" ++ back → '\n' ∉ front.toList →
          enter ("delete " ++ link.key) =
            Shell.dispatch (Command.parse ("delete " ++ front)) >>= fun goesOn =>
              if goesOn then enter back else return .ok () := by
  intro s held sent own one
  obtain ⟨up, http⟩ : s.network.up = true ∧ s.server.base.scheme = "http" :=
    reaches_of_panel ts (by rw [held]; exact Option.some_ne_none link)
  have same : s.server = server := (takeTurns_stays ts _).1
  have shown (replies : List Reply) :=
    enter_delete (s := s.onNetwork ⟨s.network.up, replies⟩) up http held same
  have typed (replies : List Reply) :=
    enter_delete_key (s := s.onNetwork ⟨s.network.up, replies⟩) up http held same
  have line : Shell.IsLine ("delete " ++ link.key) ↔ one := by
    rw [Shell.isLine_iff]
    simp [one]
  refine ⟨⟨fun ⟨_, isLine, offers⟩ => ?_, fun ⟨sends, tight, single⟩ => ?_⟩, fun replies => ?_,
    fun front back parts single => ?_⟩
  · -- a server that says that the link is gone tells the two ways apart
    have single := line.1 isLine
    obtain ⟨q, asked, -, together⟩ := offers [.response ⟨200, [], [], false⟩]
    have gone : IsGone [.response ⟨200, [], [], false⟩] := ⟨_, rfl, .inl rfl⟩
    have sends : sent := by
      rw [(shown _).1, Server.keyRequest?] at asked
      split at asked
      · cases asked
      · next full =>
        refine ⟨by simpa using full, ?_⟩
        by_contra unsendable
        simp [unsendable] at asked
    have cleared := together.2 ((shown _).2.2 ⟨sends, gone⟩)
    exact ⟨sends, ((typed _ single).2.1 cleared).2.2, single⟩
  · refine ⟨Shell.isLine_iff.2 (by decide), line.2 single, fun replies => ?_⟩
    have request : (server.keyRequest? .delete link.key).toList.filter (·.url.isRequestable) =
        [⟨.delete, server.keyUrl link.key, none⟩] := by
      rw [Server.keyRequest?, sends.1]
      simp [sends.2]
    refine ⟨⟨.delete, server.keyUrl link.key, none⟩, (shown replies).1.trans request, ?_, ?_⟩
    · rw [(typed replies single).1, show Text.trim link.key = link.key from tight, request]
    · exact (typed replies single).2.trans
        ((and_congr_right' (and_iff_left tight)).trans (shown replies).2.symm)
  · exact ⟨(shown replies).1, (shown replies).2, typed replies⟩
  · rw [parts, ← String.append_assoc, ← String.append_assoc]
    exact enter_append (by simpa using single) back

/-- A link whose key has a blank in it, but none around it, is deleted in both ways. -/
theorem offersDeletion_of_inner_blank :
    let body := "\x7b\"key\":\"a b\",\"short_url\":\"http://s/k\"\x7d"
    let reply : Reply := .response ⟨201, [], Text.Utf8.encode body.toList, false⟩
    ∃ server, Server.ofUrl "http://localhost:8080/api" = .ok server ∧
      let s := ((takeTurns [{ step := .shorten "u", replies := [reply] }]).run
        (opened server ⟨true, []⟩ { duration := 2500 } none)).state
      let link : ShortLink := ⟨"a b", "http://s/k", true, none⟩
      s.panel = some link ∧ s.OffersDeletion link := by
  intro body reply
  refine ⟨_, Server.ofUrl_localhost, ?_⟩
  intro s link
  have held : s.panel = some link := by decide +kernel
  have offers := (offersDeletion_iff .localhost ⟨true, []⟩ { duration := 2500 } none _ link held).1
  exact ⟨held, offers.2 ⟨⟨by decide +kernel, by decide +kernel⟩, by decide +kernel, by decide⟩⟩

/-- A link with a blank key gets onto the panel, and then no request asks for it to be removed, in
neither way. -/
theorem not_offersDeletion_of_blank_key :
    let body := "\x7b\"key\":\" \",\"short_url\":\"http://s/k\"\x7d"
    let reply : Reply := .response ⟨201, [], Text.Utf8.encode body.toList, false⟩
    ∃ server, Server.ofUrl "http://localhost:8080/api" = .ok server ∧
      let s := ((takeTurns [{ step := .shorten "u", replies := [reply] }]).run
        (opened server ⟨true, []⟩ { duration := 2500 } none)).state
      let link : ShortLink := ⟨" ", "http://s/k", true, none⟩
      let s' := s.onNetwork ⟨s.network.up, []⟩
      s.panel = some link ∧ removals ((enter "delete").run s').trace = [] ∧
        removals ((enter "delete  ").run s').trace = [] ∧ ¬ s.OffersDeletion link := by
  intro body reply
  refine ⟨_, Server.ofUrl_localhost, ?_⟩
  intro s link s'
  have unsent : removals ((enter "delete").run s').trace = [] := by decide +kernel
  refine ⟨by decide +kernel, unsent, by decide +kernel, fun offers => ?_⟩
  obtain ⟨q, asked, -⟩ := offers.2.2 []
  cases unsent.symm.trans asked

end Session

end Shortlink

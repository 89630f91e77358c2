import Shortlink.Proofs.Server.Spoken
import Shortlink.Proofs.Session.Output
import Shortlink.Proofs.Session.Panel
import Shortlink.Proofs.Session.Requests

/-!
# The lines of the output

Every change of what is visible has its lines: a count one, a message on view one, a link on view
three, an empty panel one. A message and a link are printed as they are, however, and each line feed
in them begins one more line, which can look like any other. This module finds all the texts that
can bring such lines: what the server says of a link or of a rejection, and, of what the client is
given, a key that is asked for, a line that is no command, a refusal by the clipboard and a message
of the caller's own.
-/

namespace Shortlink

open Text

/-! ## Events -/

/-- How many lines an event has. -/
def Effect.lines : Effect → Nat
  | .shown (.count _) | .shown (.panel none) | .shown (.notification (some _)) => 1
  | .shown (.panel (some _)) => 3
  | .shown (.notification none) | .requested _ | .copied _ => 0
  | .printed text => breaks text + 1

/-- The texts that an event shows as they are. -/
def Effect.texts : Effect → List String
  | .shown (.panel (some link)) => link.texts
  | .shown (.notification (some message)) => [message]
  | _ => []

/-- How many lines the events of a trace have. -/
def lines : List Effect → Nat
  | [] => 0
  | e :: trace => e.lines + lines trace

/-- The texts that the events of a trace show as they are, in their order. -/
def texts (trace : List Effect) : List String := trace.flatMap Effect.texts

/-- The line with the count is one line. -/
lemma unbroken_countLine (n : Int64) : Unbroken (countLine n) := by
  rw [countLine]
  split
  · decide
  · exact unbroken_append.2 ⟨by decide, unbroken_int _⟩

namespace ShortLink

variable (l : ShortLink)

/-- The line about a link breaks as its short URL does. -/
lemma breaks_line : breaks l.line = breaks l.shortUrl := by
  have mark : breaks (if l.created then " [new]" else "") = 0 := by split <;> rfl
  rw [line, breaks_append, breaks_append, mark]
  exact Nat.zero_add _

/-- The line of a link is a single line exactly if its short URL is. -/
lemma unbroken_line_iff : Unbroken l.line ↔ Unbroken l.shortUrl := by
  rw [← breaks_eq_zero_iff, ← breaks_eq_zero_iff, breaks_line]

/-- A panel with a link has three lines, and the line feeds of its texts. -/
lemma breaks_panel : breaks l.panel = 2 + breaksOf l.texts := by
  have copy : breaks "\n  [copy] " = 1 := by decide
  have delete : breaks "\n  [delete " = 1 := by decide
  have close : breaks "]" = 0 := by decide
  have texts : breaksOf l.texts = breaks l.shortUrl + breaks l.shortUrl + breaks l.key := by
    have all : String.join l.texts = l.shortUrl ++ l.shortUrl ++ l.key := by
      simp [ShortLink.texts, String.join_cons, String.append_assoc]
    rw [breaksOf, all, breaks_append, breaks_append]
  simp only [panel, breaks_append, breaks_line, copy, delete, close, texts]
  omega

end ShortLink

/-- An event prints its lines, and one more for every line feed in its texts. -/
lemma breaks_effect (e : Effect) : breaks e.output = e.lines + breaksOf e.texts := by
  have ended (text : String) : breaks (text ++ "\n") = breaks text + 1 := breaks_append _ _
  cases e with
  | requested q => rfl
  | copied text => rfl
  | printed text => exact ended text
  | shown u =>
    obtain n | (_ | link) | (_ | message) := u
    · exact (ended _).trans (congrArg (· + 1) (breaks_eq_zero_iff.2 (unbroken_countLine n)))
    · decide
    · change breaks (link.panel ++ "\n") = 3 + breaksOf link.texts
      rw [ended, link.breaks_panel]
      omega
    · rfl
    · change breaks (">> " ++ message ++ "\n") = 1 + breaksOf [message]
      rw [ended, breaks_append, breaksOf_singleton, Nat.add_comm]
      exact congrArg (1 + ·) (Nat.zero_add _)

/-- The texts of two traces come one behind the other. -/
lemma texts_append (trace trace' : List Effect) :
    texts (trace ++ trace') = texts trace ++ texts trace' := List.flatMap_append

/-- What is printed has the line feeds of its lines and of the texts in them. -/
lemma breaks_output (trace : List Effect) :
    breaks (output trace) = lines trace + breaksOf (texts trace) := by
  induction trace with
  | nil => rfl
  | cons e trace ih =>
    have shown : texts (e :: trace) = e.texts ++ texts trace := List.flatMap_cons
    rw [output_cons, breaks_append, ih, breaks_effect, lines, shown, breaksOf_append]
    omega

/-- The events print their lines and no others exactly if none of their texts has a line feed. -/
lemma breaks_effects_iff (trace : List Effect) :
    (∀ e ∈ trace, breaks e.output = e.lines) ↔ breaksOf (texts trace) = 0 := by
  simp only [breaks_effect, Nat.add_eq_left, breaksOf_eq_zero_iff, texts, List.mem_flatMap]
  constructor
  · rintro h text ⟨e, mem, own⟩
    exact h e mem text own
  · exact fun h e mem text own => h text ⟨e, mem, own⟩

/-- The links that the events of a trace put on view, in their order. -/
def shownLinks (trace : List Effect) : List ShortLink := (panelUpdates trace).reduceOption

/-- The texts of a trace are those of its messages and those of its links. -/
lemma breaksOf_texts (trace : List Effect) :
    breaksOf (texts trace) =
      breaksOf (notices trace) + breaksOf ((shownLinks trace).flatMap ShortLink.texts) := by
  induction trace with
  | nil => rfl
  | cons e trace ih =>
    obtain q | (n | (_ | link) | (_ | message)) | text | text := e
    -- every other event has no texts, is no message and shows no link
    case shown.panel.some =>
      have front : texts (.shown (.panel (some link)) :: trace) = link.texts ++ texts trace := rfl
      have links : shownLinks (.shown (.panel (some link)) :: trace) =
        link :: shownLinks trace := rfl
      rw [front, links, List.flatMap_cons, breaksOf_append, breaksOf_append, ih]
      exact Nat.add_left_comm _ _ _
    case shown.notification.some =>
      have front : texts (.shown (.notification (some message)) :: trace) =
        [message] ++ texts trace := rfl
      have said : notices (.shown (.notification (some message)) :: trace) =
        [message] ++ notices trace := rfl
      rw [front, said, breaksOf_append, breaksOf_append, ih, Nat.add_assoc]
      rfl
    all_goals exact ih

/-! ## What a step says -/

/-- What a command shows as it is of what it is given. -/
def Command.own (s : Session) : Command → List String
  | .copy => if s.panel.isSome then s.clipboardRefusal.toList else []
  | .resolve key =>
    (((s.server.resolve key).run s.network).value.toOption.join.map fun _ => key).toList
  | .unknown line => [line]
  | .shorten _ | .delete _ | .count | .help | .quit | .empty => []

/-- What a command shows as it is of what the server says. -/
def Command.spoken (s : Session) : Command → List String
  | .shorten url =>
    if Text.isBlankText url then []
    else ((s.network.response? s.server.linksUrl).map Server.linkTexts).getD []
  | .resolve key =>
    if Text.isBlankText key then []
    else ((s.network.response? (s.server.keyUrl key)).map Server.longUrlTexts).getD []
  | .delete _ | .copy | .count | .help | .quit | .empty | .unknown _ => []

namespace Session

/-- The command that a step comes to, if there is one. -/
def Step.command? : Step → Option Command
  | .refreshCount => some .count
  | .shorten input => some (.shorten input)
  | .delete key => some (.delete (some key))
  | .deleteCurrent => some (.delete none)
  | .copyCurrent => some .copy
  | .resolve key => some (.resolve key)
  | .line text => some (Command.parse text)
  | .copy _ | .notifier _ => none

/-- What a step shows as it is of what the client is given. -/
def Step.own (s : Session) : Step → List String
  | .copy _ => s.clipboardRefusal.toList
  | .notifier call => call.message?.toList
  | step => (step.command?.map (Command.own s)).getD []

/-- What a step shows as it is of what the server says. -/
def Step.spoken (s : Session) (step : Step) : List String :=
  (step.command?.map (Command.spoken s)).getD []

/-- A step shows of its own what its command does. -/
lemma own_of_command {step : Step} {c : Command} (h : step.command? = some c) (s : Session) :
    step.own s = c.own s := by
  cases step with
  | copy | notifier => cases h
  | _ => exact congrArg (fun c? => (c?.map (Command.own s)).getD []) h

/-- A step is seen as its command is. -/
lemma trace_act {step : Step} {c : Command} (h : step.command? = some c) (s : Session) :
    (step.act.run s).trace = ((Shell.dispatch c).run s).trace := by
  cases step with
  | line text =>
    obtain rfl : Command.parse text = c := Option.some.inj h
    exact List.append_nil _
  | _ => cases h <;> rfl

/-! ### Messages -/

/-- What is said of a new link is one line. -/
lemma breaks_shortenedMessage (link : ShortLink) : breaks (shortenedMessage link) = 0 := by
  rw [shortenedMessage]
  split <;> decide

/-- What is said of a removal is one line. -/
lemma breaks_removalMessage (o : Removal) : breaks (removalMessage o) = 0 := by
  cases o <;> decide

/-- What is said of a copy breaks as the reason of the clipboard does. -/
lemma breaks_copyMessage (refusal : Option String) :
    breaks (copyMessage refusal) = breaksOf refusal.toList := by
  cases refusal with
  | none => decide
  | some reason =>
    change breaks ("Failed to copy: " ++ reason) = _
    rw [breaks_append]
    exact (Nat.zero_add _).trans (breaksOf_singleton _).symm

/-- What is said of a removal is one line, whether there was a link or not. -/
lemma breaks_currentRemovalMessage (outcome? : Option Removal) :
    breaks (currentRemovalMessage outcome?) = 0 := by
  cases outcome? with
  | none => decide
  | some o => exact breaks_removalMessage o

/-- What is said of a copy breaks as the reason of the clipboard does, if there was a link. -/
lemma breaks_currentCopyMessage (panel : Panel) (refusal : Option String) :
    breaks (currentCopyMessage panel refusal) =
      breaksOf (if panel.isSome then refusal.toList else []) := by
  cases panel with
  | none =>
    have nothing : Unbroken nothingSelectedMessage := by decide
    exact breaks_eq_zero_iff.2 nothing
  | some link => exact breaks_copyMessage refusal

/-- What is said of a request without a response is one line. -/
lemma breaks_failure {u : Url} (h : u.IsUnbroken) :
    breaks (Failure.network (Network.failure u).message).userMessage = 0 := by
  change breaks ("Error: " ++ _) = 0
  exact breaks_eq_zero_iff.2 (unbroken_append.2 ⟨by decide, SendError.unbroken_message h⟩)

/-! ### Steps -/

/-- The timer shows no text. -/
lemma texts_settle (s : Session) : texts ((onNotifier Notifier.settle).run s).trace = [] := by
  rw [texts, List.flatMap_eq_nil_iff]
  intro e mem
  rw [trace_settle s e mem]
  rfl

/-- A call of the notifications shows its own message. -/
lemma texts_call (call : Notifier.Call) (s : Session) :
    texts ((onNotifier (Notifier.call call)).run s).trace = call.message?.toList := by
  have trace : ((onNotifier (Notifier.call call)).run s).trace =
      ((onNotifier call.act).run s).trace ++
        ((onNotifier Notifier.settle).run ((onNotifier call.act).run s).state).trace :=
    List.map_append
  rw [trace, texts_append, texts_settle, List.append_nil]
  cases said : call.message? with
  | some m =>
    have run := Notifier.Call.run_act_of_message (n := s.notifier) said
    rw [onNotifier, Traced.run_focus, run]
    rfl
  | none =>
    cases call with
    | notify | notifyFor => cases said
    | dismiss | advance => rfl

/-- Where no URL is shortened, no link is put on view. -/
lemma shownLinks_of_handles {m : Action α} {s : Session} {key? : Option Key}
    (h : Handles m s none key?) : shownLinks (m.run s).trace = [] := by
  obtain ⟨us, p, ⟨events, -⟩, affects⟩ := h
  have updates : panelUpdates (m.run s).trace = us := events
  rw [shownLinks, updates]
  cases affects with
  | shows asked => cases asked
  | clears | keeps => rfl

/-- Where one message is all that is put on view, it is all that is shown as it is. -/
lemma breaksOf_said {m : Action α} {s : Session} {x : α} {text : String} {key? : Option Key}
    (said : Announces m s x text) (handles : Handles m s none key?) :
    breaksOf (texts (m.run s).trace) = breaks text := by
  have notice : notices (m.run s).trace = [text] := said.shows.1
  rw [breaksOf_texts, notice, shownLinks_of_handles handles]
  exact breaksOf_singleton text

/-- An action without a message and without a new link shows no line feed. -/
lemma breaksOf_silent {m : Action α} {s : Session} {key? : Option Key}
    (silent : noticeWindow.Misses m) (handles : Handles m s none key?) :
    breaksOf (texts (m.run s).trace) = 0 := by
  have notice : notices (m.run s).trace = [] := (silent s).1
  rw [breaksOf_texts, notice, shownLinks_of_handles handles]
  rfl

/-- Shortening puts on view the link that comes of it. -/
lemma shownLinks_shorten (s : Session) (input : String) :
    shownLinks ((shorten input).run s).trace =
      ((s.server.shorten input).run s.network).value.toOption.toList := by
  cases value : ((s.server.shorten input).run s.network).value with
  | ok link =>
    have updates : panelUpdates ((shorten input).run s).trace = [some link] :=
      (shows_shorten (Server.shorten_ok_iff.1 value)).1
    rw [shownLinks, updates]
    rfl
  | error e =>
    have updates : panelUpdates ((shorten input).run s).trace = [] := by
      refine (shows_shorten_of_not_brings fun link brings => ?_).1
      rw [Brings, ← Server.shorten_ok_iff, value] at brings
      cases brings
    rw [shownLinks, updates]
    rfl

section

variable {s : Session} (h : s.server.base.IsUnbroken)

include h

/-- Shortening shows the line feeds of what the server says. -/
lemma breaksOf_shorten (input : String) :
    breaksOf (texts ((shorten input).run s).trace) =
      breaksOf (Command.spoken s (.shorten input)) := by
  have notice : notices ((shorten input).run s).trace = [_] := (announces_shorten s input).shows.1
  rw [breaksOf_texts, notice, shownLinks_shorten, breaksOf_singleton, Command.spoken]
  cases blank : Text.isBlankText input with
  | true =>
    rw [Server.shorten_of_blank blank, if_pos rfl]
    have refused : Unbroken "Please enter a valid URL." := by decide
    exact breaks_eq_zero_iff.2 refused
  | false =>
    rw [Server.shorten_value blank, if_neg Bool.false_ne_true]
    cases s.network.response? s.server.linksUrl with
    | none => exact breaks_failure (h.below [])
    | some r =>
      rw [Option.map_some, Option.getD_some]
      dsimp only
      cases made : Server.linkOf r with
      | ok link =>
        rw [Server.linkTexts_of_ok made]
        have message : breaks (linkMessage (.ok link)) = 0 := breaks_shortenedMessage link
        rw [message, Nat.zero_add]
        exact congrArg breaksOf (List.flatMap_singleton _ link)
      | error e => exact Server.breaks_of_linkOf_error made

/-- What is said of a long URL has the line feeds of the key and of what the server says. -/
lemma breaks_longUrlMessage (key : Key) :
    breaks (longUrlMessage key ((s.server.resolve key).run s.network).value) =
      breaksOf (Command.own s (.resolve key)) + breaksOf (Command.spoken s (.resolve key)) := by
  rw [Command.own, Command.spoken]
  cases blank : Text.isBlankText key with
  | true =>
    rw [Server.resolve_of_blank blank, if_pos rfl]
    have refused : Unbroken "Please enter a short URL key." := by decide
    exact breaks_eq_zero_iff.2 refused
  | false =>
    rw [Server.resolve_value blank, if_neg Bool.false_ne_true]
    cases s.network.response? (s.server.keyUrl key) with
    | none => exact breaks_failure (h.below [key])
    | some r =>
      rw [Option.map_some, Option.getD_some]
      dsimp only
      cases found : Server.longUrlOf r with
      | ok url? =>
        rw [Server.longUrlTexts_of_ok found]
        cases url? with
        | none =>
          have missing : Unbroken notFoundMessage := by decide
          exact breaks_eq_zero_iff.2 missing
        | some url =>
          have location : breaks (" -> " ++ url) = 0 :=
            breaks_eq_zero_iff.2 (unbroken_append.2
              ⟨by decide, Response.unbroken_location (Server.longUrlOf_some_iff.1 found).2⟩)
          change breaks (key ++ " -> " ++ url) = breaksOf [key]
          rw [String.append_assoc, breaks_append, location, breaksOf_singleton, Nat.add_zero]
      | error e =>
        exact (Server.breaks_of_longUrlOf_error found).trans (Nat.zero_add _).symm

/-- What a command shows as it is comes from the server or from what the client is given. -/
lemma breaksOf_dispatch (c : Command) :
    breaksOf (texts ((Shell.dispatch c).run s).trace) =
      breaksOf (c.own s) + breaksOf (c.spoken s) := by
  have handles := handles_dispatch s c
  cases c with
  | shorten url =>
    have trace : ((Shell.dispatch (.shorten url)).run s).trace = ((shorten url).run s).trace :=
      List.append_nil _
    rw [trace, breaksOf_shorten h]
    exact (Nat.zero_add _).symm
  | delete key? =>
    cases key? with
    | some key =>
      have said : Announces (Shell.dispatch (.delete (some key))) s true _ :=
        (announces_delete s key).map fun _ => true
      exact (breaksOf_said said handles).trans (breaks_removalMessage _)
    | none =>
      have said : Announces (Shell.dispatch (.delete none)) s true _ :=
        (announces_deleteCurrent s).map fun _ => true
      exact (breaksOf_said said handles).trans (breaks_currentRemovalMessage _)
  | copy =>
    have said : Announces (Shell.dispatch .copy) s true _ :=
      (announces_copyCurrent s).map fun _ => true
    exact (breaksOf_said said handles).trans (breaks_currentCopyMessage _ _)
  | resolve key =>
    have said : Announces (Shell.dispatch (.resolve key)) s true _ :=
      (announces_resolve s key).map fun _ => true
    exact (breaksOf_said said handles).trans (breaks_longUrlMessage h key)
  | unknown line =>
    have said : Announces (Shell.dispatch (.unknown line)) s true _ :=
      .notify (.pure _) fun _ => rfl
    rw [breaksOf_said said handles, breaks_append, breaks_append]
    exact Nat.zero_add _
  | count | help | quit | empty => exact breaksOf_silent (unnoticed_dispatch rfl) handles

/-- So it is with a step. -/
lemma breaksOf_act (step : Step) :
    breaksOf (texts (step.act.run s).trace) = breaksOf (step.own s) + breaksOf (step.spoken s) := by
  cases command : step.command? with
  | some c =>
    have spoken : step.spoken s = c.spoken s := by rw [Step.spoken, command]; rfl
    rw [trace_act command, own_of_command command, spoken, breaksOf_dispatch h]
  | none =>
    cases step with
    | copy text =>
      have said := (announces_copy s text).map Answer.yes
      exact (breaksOf_said said (handles_act (.copy text) s)).trans (breaks_copyMessage _)
    | notifier call =>
      have trace : ((Step.notifier call).act.run s).trace =
          ((onNotifier (Notifier.call call)).run s).trace := List.append_nil _
      rw [trace, texts_call]
      rfl
    | _ => cases command

end

/-! ## Runs -/

/-- What the steps of a run show, each of them in the session it finds. -/
def collect (shown : Session → Step → List String) : List Turn → Session → List String
  | [], _ => []
  | t :: ts, s => shown (t.prepare s) t.step ++ collect shown ts (t.take.run s).state

/-- A turn shows the line feeds of what its step shows. -/
lemma breaksOf_take {s : Session} (h : s.server.base.IsUnbroken) (t : Turn) :
    breaksOf (texts (t.take.run s).trace) =
      breaksOf (t.step.own (t.prepare s)) + breaksOf (t.step.spoken (t.prepare s)) := by
  have prepared : (t.prepare s).server.base.IsUnbroken := h
  rw [Turn.run_take, texts_append, texts_settle, List.append_nil]
  exact breaksOf_act prepared t.step

/-- A run shows the line feeds of what its steps show. -/
lemma breaksOf_takeTurns (ts : List Turn) {s : Session} (h : s.server.base.IsUnbroken) :
    breaksOf (texts ((takeTurns ts).run s).trace) =
      breaksOf (collect Step.own ts s) + breaksOf (collect Step.spoken ts s) := by
  induction ts generalizing s with
  | nil => rfl
  | cons t ts ih =>
    have stays : (t.take.run s).state.server.base.IsUnbroken := by
      rw [take_server]
      exact h
    have trace : ((takeTurns (t :: ts)).run s).trace =
        (t.take.run s).trace ++ ((takeTurns ts).run (t.take.run s).state).trace := by
      simp only [takeTurns, List.mapM_cons, Traced.run_bind, Traced.run_pure, List.append_nil]
    rw [trace, texts_append, breaksOf_append, breaksOf_take h, ih stays]
    simp only [collect, breaksOf_append]
    omega

/-- What a session prints, for a server at a URL that is accepted. There is a line end for each of
its lines, and one more for every line feed in a text that is shown as it is, be it the client's own
or the server's. So all events print their lines and no others exactly if none of these texts has a
line feed; and the line of a link is a single one exactly if its short URL has none. -/
theorem breaks_output_of_turns [Url.DomainRules] {url : String} {server : Server}
    (accepted : Server.ofUrl url = .ok server) (network : Network) (notifier : Notifier)
    (clipboardRefusal : Option String) (ts : List Turn) :
    let s := opened server network notifier clipboardRefusal
    let r := (takeTurns ts).run s
    let own := collect Step.own ts s
    let spoken := collect Step.spoken ts s
    breaks (output r.trace) = lines r.trace + breaksOf own + breaksOf spoken ∧
      ((∀ e ∈ r.trace, breaks e.output = e.lines) ↔ ∀ text ∈ own ++ spoken, Unbroken text) ∧
      ∀ link : ShortLink, Unbroken link.line ↔ Unbroken link.shortUrl := by
  intro s r own spoken
  have base : s.server.base.IsUnbroken := Url.isUnbroken_parse (Server.ofUrl_ok accepted)
  have shown : breaksOf (texts r.trace) = breaksOf own + breaksOf spoken :=
    breaksOf_takeTurns ts base
  refine ⟨?_, ?_, ShortLink.unbroken_line_iff⟩
  · rw [breaks_output, shown, Nat.add_assoc]
  · rw [breaks_effects_iff, shown, ← breaksOf_append, breaksOf_eq_zero_iff]

/-- A text with a line feed that stands where a link should be is quoted, and adds no line. -/
theorem breaks_output_of_quoted_text :
    let reply : Reply := .response ⟨200, [], Text.Utf8.encode "\"a\\nb\"".toList, false⟩
    ∃ server, Server.ofUrl "http://localhost:8080/api" = .ok server ∧
      let r := (takeTurns [{ step := .shorten "u", replies := [reply] }]).run
        (opened server ⟨true, []⟩ { duration := 2500 } none)
      notices r.trace =
          ["Error: malformed response: invalid type: string \"a\\nb\", expected struct " ++
            "ShortenResponse at line 1 column 6"] ∧
        ∀ e ∈ r.trace, breaks e.output = e.lines := by
  intro reply
  refine ⟨_, Server.ofUrl_localhost, ?_⟩
  intro r
  have printed := breaks_output_of_turns Server.ofUrl_localhost ⟨true, []⟩ { duration := 2500 } none
    [{ step := .shorten "u", replies := [reply] }]
  exact ⟨by decide +kernel, printed.2.1.2 (by decide +kernel)⟩

/-- A short URL with a line feed puts a link on view whose line is two, and what is printed where it
can be copied reads like a notification that there has not been. -/
theorem breaks_output_ne_lines_of_forged_notice :
    let body := "\x7b\"key\":\"k\"," ++
      "\"short_url\":\"http://x/\\n>> URL deleted successfully!\"\x7d"
    let reply : Reply := .response ⟨201, [], Text.Utf8.encode body.toList, false⟩
    let link : ShortLink := ⟨"k", "http://x/\n>> URL deleted successfully!", true, none⟩
    ∃ server, Server.ofUrl "http://localhost:8080/api" = .ok server ∧
      let r := (takeTurns [{ step := .shorten "u", replies := [reply] }]).run
        (opened server ⟨true, []⟩ { duration := 2500 } none)
      r.state.panel = some link ∧ ¬ Unbroken link.line ∧
        notices r.trace = [createdMessage] ∧
        output r.trace =
          ">> Short URL created\n" ++
            "URL: http://x/\n" ++
            ">> URL deleted successfully! [new]\n" ++
            "  [copy] http://x/\n" ++
            ">> URL deleted successfully!\n" ++
            "  [delete k]\n" ++
            "URLs stored: ?\n" ∧
        lines r.trace = 5 ∧ breaks (output r.trace) = 7 := by
  intro body reply link
  refine ⟨_, Server.ofUrl_localhost, ?_⟩
  exact ⟨by decide +kernel, by decide, by decide +kernel, by decide +kernel, by decide +kernel,
    by decide +kernel⟩

end Session

end Shortlink

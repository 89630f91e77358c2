import Shortlink.Proofs.Notifier.Step
import Shortlink.Proofs.Server.Keys
import Shortlink.Proofs.Server.Shorten
import Shortlink.Proofs.Session.Parts
import Shortlink.Proofs.Session.Turns

/-!
# What the user is told

Every action tells the user in one message how it went, and the message tells success from failure.
Where something is wrong the text begins with words of the session's own, so nothing that the server
or the clipboard says can pass for a success. To ask for the count says nothing, and neither do the
lines for help, to quit, and without a command.
-/

namespace Shortlink

/-- The message that an event puts on view. -/
def Effect.notice? : Effect → Option String
  | .shown (.notification message) => message
  | _ => none

/-- A message is put on view by one event alone. -/
lemma Effect.notice?_eq_some_iff {e : Effect} {message : String} :
    e.notice? = some message ↔ e = .shown (.notification (some message)) := by
  obtain _ | (_ | _ | _) | _ | _ := e <;> simp [notice?]

/-- The messages that the events of a trace put on view, in their order. -/
def notices (trace : List Effect) : List String := trace.filterMap Effect.notice?

/-- Whether a command ends with a message. -/
def Command.speaks : Command → Bool
  | .shorten _ | .delete _ | .copy | .resolve _ | .unknown _ => true
  | .count | .help | .quit | .empty => false

/-- A rejection with a text is told by it. -/
lemma Failure.userMessage_of_full {status : Option UInt16} {m : String} (full : m ≠ "") :
    (remote status m).userMessage = "Error: " ++ m :=
  if_neg (by simpa using full)

/-- There is a text for every failure, unless the input is refused without one. -/
lemma Failure.userMessage_ne_empty {e : Failure} (h : ∀ m, e = .validation m → m ≠ "") :
    e.userMessage ≠ "" := by
  have worded (front rest : String) (full : front ≠ "") : front ++ rest ≠ "" := by simp [full]
  cases e with
  | validation m => exact h m rfl
  | remote status m =>
    by_cases full : m = ""
    · have default : (remote status m).userMessage = "Unable to shorten URL." :=
        if_pos (by simp [full])
      rw [default]
      decide
    · rw [userMessage_of_full full]
      exact worded _ m (by decide)
  | network m => exact worded "Error: " m (by decide)
  | clipboard m => exact worded "Failed to copy: " m (by decide)
  | config m => exact worded "Configuration error: " m (by decide)

namespace Session

/-- Whether a step ends with a message. -/
def Step.speaks : Step → Bool
  | .shorten _ | .delete _ | .deleteCurrent | .copy _ | .copyCurrent | .resolve _ => true
  | .line text => (Command.parse text).speaks
  | .refreshCount | .notifier _ => false

/-- A message tells whether there is a link, and whether it is a new one. -/
def TellsLink (text : String) (link? : Option ShortLink) : Prop :=
  ∀ created, (∃ link, link? = some link ∧ link.created = created) ↔
    text = if created then createdMessage else existingMessage

/-- What a message tells of the answer to a step. -/
def Step.Tells (text : String) : Step → Answer → Prop
  | .shorten _, .link link? => TellsLink text link?
  | .delete _, .removal (some outcome) => ∀ o, outcome = o ↔ text = removalMessage o
  | .deleteCurrent, .removal outcome? => ∀ o, outcome? = some o ↔ text = removalMessage o
  | .copy _, .yes copied => copied = true ↔ text = copiedMessage
  | .copyCurrent, .yes copied => copied = true ↔ text = copiedMessage
  | .resolve key, .longUrl url? => ∀ url, url? = some url → text = key ++ " -> " ++ url
  | .line _, .yes _ => True
  | _, _ => False

/-- The notifications, and the messages that are put on view. -/
def noticeWindow : Window Session Effect Notifier String where
  part s := s.notifier
  event := Effect.notice?

/-- Neither the requests nor the network are seen in the notifications. -/
lemma noticeWindow_network : IgnoresNetwork noticeWindow :=
  ⟨fun _ _ => rfl, fun _ => rfl⟩

/-- Refreshing the count puts no message on view. -/
lemma unnoticed_refreshCount : noticeWindow.Misses refreshCount :=
  noticeWindow_network.refreshCount fun _ => rfl

/-- Putting a link on the panel puts no message on view. -/
lemma unnoticed_present (link : ShortLink) :
    noticeWindow.Misses (onPanel (Panel.present link)) :=
  fun _ => ⟨rfl, rfl⟩

/-- Taking a link off the panel puts no message on view. -/
lemma unnoticed_settleRemoval (key : Key) (outcome : Removal) :
    noticeWindow.Misses (onPanel (Panel.settleRemoval key outcome)) := by
  intro s
  rw [Window.Shows, onPanel, Panel.settleRemoval, Traced.run_focus, Traced.run_bind,
    Traced.run_read]
  split
  · exact ⟨rfl, rfl⟩
  · exact ⟨rfl, rfl⟩

/-- Writing to the clipboard puts no message on view. -/
lemma unnoticed_writeClipboard (text : String) : noticeWindow.Misses (writeClipboard text) := by
  apply Window.Misses.bind .read
  intro s
  split
  · exact .pure _
  · exact .bind (.emit rfl) fun _ => .pure _

/-- An action comes to this value, and this message is put on view, once and with a timer. -/
structure Announces (m : Action α) (s : Session) (x : α) (text : String) : Prop where
  value : (m.run s).value = x
  shows : noticeWindow.Shows m s [text] ((Notifier.notify true text).run s.notifier).state

/-- A message is put on view, with a timer. -/
lemma shows_notify (s : Session) (text : String) :
    noticeWindow.Shows (notify text) s [text] ((Notifier.notify true text).run s.notifier).state :=
  ⟨rfl, rfl⟩

namespace Announces

variable {s : Session} {x : α} {text : String}

/-- A message behind which no other one comes is announced. -/
lemma notify {rest : Action α} (quiet : noticeWindow.Misses rest)
    (value : ∀ s, (rest.run s).value = x) : Announces (do Session.notify text; rest) s x text :=
  ⟨value _, (shows_notify s text).bind_misses quiet⟩

/-- An action without a message may come in front. -/
lemma after {m : Action β} {f : β → Action α} (quiet : noticeWindow.Misses m)
    (h : Announces (f (m.run s).value) (m.run s).state x text) : Announces (m >>= f) s x text := by
  have part : (m.run s).state.notifier = s.notifier := (quiet s).2
  refine ⟨h.value, quiet.bind_shows ?_⟩
  rw [← part]
  exact h.shows

/-- A function of the value does not change the message. -/
lemma map {m : Action β} {y : β} (h : Announces m s y text) (f : β → α) :
    Announces (do return f (← m)) s (f y) text :=
  ⟨congrArg f h.value, h.shows.bind_misses (.pure _)⟩

end Announces

/-! ## What each action says -/

/-- What is said of a URL that was to be shortened. -/
def linkMessage : Except Failure ShortLink → String
  | .ok link => shortenedMessage link
  | .error e => e.userMessage

/-- What is said of the link on the panel that was to be removed, if there is one. -/
def currentRemovalMessage (outcome? : Option Removal) : String :=
  (outcome?.map removalMessage).getD nothingSelectedMessage

/-- What is said of the long URL behind a key. -/
def longUrlMessage (key : Key) : Except Failure (Option String) → String
  | .ok (some url) => key ++ " -> " ++ url
  | .ok none => notFoundMessage
  | .error e => e.userMessage

/-- What is said of a text that was to be copied, where the clipboard refuses it for a reason. -/
def copyMessage : Option String → String
  | none => copiedMessage
  | some reason => (Failure.clipboard reason).userMessage

/-- What is said of the link on the panel that was to be copied, if there is one. -/
def currentCopyMessage (panel : Panel) (refusal : Option String) : String :=
  if panel.isSome then copyMessage refusal else nothingSelectedMessage

/-- Shortening announces what has become of the URL. -/
lemma announces_shorten (s : Session) (input : String) :
    let answer := ((s.server.shorten input).run s.network).value
    Announces (shorten input) s answer.toOption (linkMessage answer) := by
  intro answer
  have value : ((exchange (·.shorten input)).run s).value = answer := exchange_value _ s
  rw [shorten]
  apply Announces.after (noticeWindow_network.exchange _)
  rw [value]
  cases answer with
  | ok link =>
    refine .notify ?_ fun _ => rfl
    exact .bind (unnoticed_present link) fun _ => .bind unnoticed_refreshCount fun _ => .pure _
  | error e =>
    cases e with
    | validation m => exact .notify (.pure _) fun _ => rfl
    | _ => exact .notify (.bind unnoticed_refreshCount fun _ => .pure _) fun _ => rfl

/-- Deleting announces what has become of the link. -/
lemma announces_delete (s : Session) (key : Key) :
    let outcome := ((s.server.remove key).run s.network).value
    Announces (delete key) s outcome (removalMessage outcome) := by
  intro outcome
  have value : ((exchange (·.remove key)).run s).value = outcome := exchange_value _ s
  rw [delete]
  apply Announces.after (noticeWindow_network.exchange _)
  rw [value]
  -- from here on it does not matter how the outcome came about
  clear_value outcome
  apply Announces.after (unnoticed_settleRemoval key outcome)
  exact .notify (.bind unnoticed_refreshCount fun _ => .pure _) fun _ => rfl

/-- Deleting the link on the panel announces what has become of it, or that there is none. -/
lemma announces_deleteCurrent (s : Session) :
    let outcome? := s.panel.map fun link => ((s.server.remove link.key).run s.network).value
    Announces deleteCurrent s outcome? (currentRemovalMessage outcome?) := by
  rw [deleteCurrent]
  apply Announces.after .read
  rw [Traced.run_read]
  cases s.panel with
  | some link =>
    simp only [Option.map_some, currentRemovalMessage, Option.getD_some]
    exact (announces_delete s link.key).map some
  | none => exact .notify (.pure _) fun _ => rfl

/-- Copying a text announces whether the clipboard takes it. -/
lemma announces_copy (s : Session) (text : String) :
    Announces (copy text) s s.clipboardRefusal.isNone (copyMessage s.clipboardRefusal) := by
  rw [copy]
  apply Announces.after (unnoticed_writeClipboard text)
  rw [writeClipboard, Traced.run_bind, Traced.run_read]
  cases s.clipboardRefusal with
  | none => exact .notify (.pure _) fun _ => rfl
  | some reason => exact .notify (.pure _) fun _ => rfl

/-- Copying the link on the panel announces whether there is one and the clipboard takes it. -/
lemma announces_copyCurrent (s : Session) :
    Announces copyCurrent s (s.panel.isSome && s.clipboardRefusal.isNone)
      (currentCopyMessage s.panel s.clipboardRefusal) := by
  rw [copyCurrent]
  apply Announces.after .read
  rw [Traced.run_read]
  cases s.panel with
  | some link => exact announces_copy s link.shortUrl
  | none => exact .notify (.pure _) fun _ => rfl

/-- Looking a key up announces its long URL, or why there is none. -/
lemma announces_resolve (s : Session) (key : Key) :
    let answer := ((s.server.resolve key).run s.network).value
    Announces (resolve key) s answer.toOption.join (longUrlMessage key answer) := by
  intro answer
  have value : ((exchange (·.resolve key)).run s).value = answer := exchange_value _ s
  rw [resolve]
  apply Announces.after (noticeWindow_network.exchange _)
  rw [value]
  obtain e | _ | url := answer
  · exact .notify (.pure _) fun _ => rfl
  · exact .notify (.pure _) fun _ => rfl
  · exact .notify (.pure _) fun _ => rfl

/-! ## What the messages tell -/

/-- What is said of a link tells whether it is a new one. -/
lemma tellsLink_some (link : ShortLink) : TellsLink (shortenedMessage link) (some link) := by
  intro created
  obtain ⟨key, shortUrl, isNew, longUrl⟩ := link
  cases isNew <;> cases created <;> simp [shortenedMessage, createdMessage, existingMessage]

/-- Any other message tells that there is no link. -/
lemma tellsLink_none {text : String} (new : text ≠ createdMessage) (old : text ≠ existingMessage) :
    TellsLink text none := by
  intro created
  cases created with
  | true => simp [new]
  | false => simp [old]

/-- Whatever comes behind it, this is not the beginning of a success. -/
lemma tellsLink_error (m : String) : TellsLink ("Error: " ++ m) none :=
  tellsLink_none (by simp [← String.toList_inj, createdMessage])
    (by simp [← String.toList_inj, existingMessage])

/-- A URL is shortened exactly if the message is the one for its kind of success. -/
lemma linkMessage_tells (s : Server) (input : String) (n : Network) :
    let answer := ((s.shorten input).run n).value
    linkMessage answer ≠ "" ∧ TellsLink (linkMessage answer) answer.toOption := by
  cases blank : Text.isBlankText input with
  | true =>
    rw [Server.shorten_of_blank blank]
    have refused : linkMessage (.error (.validation "Please enter a valid URL.")) =
      "Please enter a valid URL." := rfl
    simp only [refused]
    exact ⟨by decide, tellsLink_none (by decide) (by decide)⟩
  | false =>
    have result := Server.shortened (s := s) blank n
    intro answer
    change Server.Shortened _ answer at result
    clear_value answer
    cases result with
    | @link r link =>
      refine ⟨?_, tellsLink_some link⟩
      rw [linkMessage, shortenedMessage]
      split <;> decide
    | @rejected r body m _ _ _ full =>
      rw [linkMessage, Failure.userMessage_of_full full]
      exact ⟨by simp, tellsLink_error m⟩
    | @lost m =>
      have full : "Error: " ++ m ≠ "" := by simp
      exact ⟨full, tellsLink_error m⟩

/-- Something is said of a removal. -/
lemma removalMessage_ne_empty (o : Removal) : removalMessage o ≠ "" := by
  cases o <;> decide

/-- No two outcomes are told in the same words. -/
lemma removalMessage_tells (o o' : Removal) : o = o' ↔ removalMessage o = removalMessage o' := by
  cases o <;> cases o' <;> decide

/-- Something is said of a removal even where there is no link. -/
lemma currentRemovalMessage_ne_empty (outcome? : Option Removal) :
    currentRemovalMessage outcome? ≠ "" := by
  cases outcome? with
  | none => decide
  | some o => exact removalMessage_ne_empty o

/-- What is said of a removal tells what became of the link. -/
lemma currentRemovalMessage_tells (outcome? : Option Removal) (o : Removal) :
    outcome? = some o ↔ currentRemovalMessage outcome? = removalMessage o := by
  cases outcome? with
  | none => cases o <;> decide
  | some o' =>
    rw [Option.some_inj, removalMessage_tells]
    rfl

/-- Something is said of a copy. -/
lemma copyMessage_ne_empty (refusal : Option String) : copyMessage refusal ≠ "" := by
  cases refusal with
  | none => decide
  | some reason =>
    have full : "Failed to copy: " ++ reason ≠ "" := by simp
    exact full

/-- The clipboard takes a text exactly if the message says so, whatever its reason to refuse is. -/
lemma copyMessage_tells (refusal : Option String) :
    refusal.isNone = true ↔ copyMessage refusal = copiedMessage := by
  cases refusal with
  | none => simp [copyMessage]
  | some reason =>
    have refused : "Failed to copy: " ++ reason ≠ copiedMessage := by
      simp [← String.toList_inj, copiedMessage]
    exact ⟨fun none => (Bool.false_ne_true none).elim, fun h => absurd h refused⟩

/-- Something is said of a copy even where there is no link. -/
lemma currentCopyMessage_ne_empty (panel : Panel) (refusal : Option String) :
    currentCopyMessage panel refusal ≠ "" := by
  cases panel with
  | none =>
    have full : nothingSelectedMessage ≠ "" := by decide
    exact full
  | some link => exact copyMessage_ne_empty refusal

/-- What is said of a copy tells whether it was made. -/
lemma currentCopyMessage_tells (panel : Panel) (refusal : Option String) :
    (panel.isSome && refusal.isNone) = true ↔
      currentCopyMessage panel refusal = copiedMessage := by
  cases panel with
  | none =>
    have other : nothingSelectedMessage ≠ copiedMessage := by decide
    exact ⟨fun none => (Bool.false_ne_true none).elim, fun h => absurd h other⟩
  | some link => exact copyMessage_tells refusal

/-- A long URL is shown where there is one; a failure may read the same. -/
lemma longUrlMessage_tells (key : Key) (answer : Except Failure (Option String)) :
    ∀ url, answer.toOption.join = some url → longUrlMessage key answer = key ++ " -> " ++ url := by
  intro url h
  obtain e | _ | url' := answer
  · cases h
  · cases h
  · cases h
    rfl

/-- Something is said of a long URL that was asked for. -/
lemma longUrlMessage_ne_empty (s : Server) (key : Key) (n : Network) :
    longUrlMessage key ((s.resolve key).run n).value ≠ "" := by
  cases value : ((s.resolve key).run n).value with
  | error e =>
    apply Failure.userMessage_ne_empty
    rintro m rfl
    rw [Server.resolve_refuses value]
    decide
  | ok url? =>
    cases url? with
    | none =>
      have full : notFoundMessage ≠ "" := by decide
      exact full
    | some url => simp [longUrlMessage]

/-! ## Turns -/

/-- A command that ends with a message says one that is not empty. -/
lemma announces_dispatch (s : Session) {c : Command} (h : c.speaks = true) :
    ∃ text, text ≠ "" ∧ Announces (Shell.dispatch c) s true text := by
  cases c with
  | shorten url =>
    exact ⟨_, (linkMessage_tells s.server url s.network).1,
      (announces_shorten s url).map fun _ => true⟩
  | delete key? =>
    cases key? with
    | some key => exact ⟨_, removalMessage_ne_empty _, (announces_delete s key).map fun _ => true⟩
    | none =>
      exact ⟨_, currentRemovalMessage_ne_empty _, (announces_deleteCurrent s).map fun _ => true⟩
  | copy => exact ⟨_, currentCopyMessage_ne_empty _ _, (announces_copyCurrent s).map fun _ => true⟩
  | resolve key =>
    exact ⟨_, longUrlMessage_ne_empty s.server key s.network,
      (announces_resolve s key).map fun _ => true⟩
  | unknown line => exact ⟨_, by simp, .notify (.pure _) fun _ => rfl⟩
  | count | help | quit | empty => cases h

/-- A command that does not end with a message puts none on view. -/
lemma unnoticed_dispatch {c : Command} (h : c.speaks = false) :
    noticeWindow.Misses (Shell.dispatch c) := by
  cases c with
  | count => exact .bind unnoticed_refreshCount fun _ => .pure _
  | help => exact .bind (.emit rfl) fun _ => .pure _
  | quit => exact .pure _
  | empty => exact .pure _
  | shorten | delete | copy | resolve | unknown => cases h

/-- A step that ends with a message says one that is not empty and tells how the step went. -/
lemma announces_act (s : Session) {step : Step} (h : step.speaks = true) :
    ∃ x text, text ≠ "" ∧ step.Tells text x ∧ Announces step.act s x text := by
  cases step with
  | shorten input =>
    obtain ⟨full, tells⟩ := linkMessage_tells s.server input s.network
    exact ⟨.link _, _, full, tells, (announces_shorten s input).map Answer.link⟩
  | delete key =>
    exact ⟨.removal (some _), _, removalMessage_ne_empty _, removalMessage_tells _,
      (announces_delete s key).map fun outcome => Answer.removal (some outcome)⟩
  | deleteCurrent =>
    exact ⟨.removal _, _, currentRemovalMessage_ne_empty _, currentRemovalMessage_tells _,
      (announces_deleteCurrent s).map Answer.removal⟩
  | copy text =>
    exact ⟨.yes _, _, copyMessage_ne_empty _, copyMessage_tells _,
      (announces_copy s text).map Answer.yes⟩
  | copyCurrent =>
    exact ⟨.yes _, _, currentCopyMessage_ne_empty _ _, currentCopyMessage_tells _ _,
      (announces_copyCurrent s).map Answer.yes⟩
  | resolve key =>
    exact ⟨.longUrl _, _, longUrlMessage_ne_empty s.server key s.network,
      longUrlMessage_tells key _, (announces_resolve s key).map Answer.longUrl⟩
  | line text =>
    obtain ⟨message, full, announces⟩ := announces_dispatch s h
    exact ⟨.yes _, _, full, trivial, announces.map Answer.yes⟩
  | refreshCount | notifier => cases h

/-- A step that does not end with a message puts none on view. -/
lemma unnoticed_act {step : Step} (h : step.speaks = false)
    (other : ∀ call, step ≠ .notifier call) : noticeWindow.Misses step.act := by
  cases step with
  | refreshCount => exact .bind unnoticed_refreshCount fun _ => .pure _
  | line text => exact .bind (unnoticed_dispatch h) fun _ => .pure _
  | notifier call => exact absurd rfl (other call)
  | shorten | delete | deleteCurrent | copy | copyCurrent | resolve => cases h

/-- The timer shows no message. -/
lemma notices_settle (s : Session) :
    notices ((onNotifier Notifier.settle).run s).trace = [] := by
  rw [notices, List.filterMap_eq_nil_iff]
  intro e mem
  rw [trace_settle s e mem]
  rfl

/-- A message with some time to stay is still there when the timer has had its chance. -/
lemma message_settle {s : Session} {n : Notifier} {text : String}
    (h : s.notifier = ((Notifier.notify true text).run n).state) (time : 0 < n.duration) :
    ((onNotifier Notifier.settle).run s).state.notifier.message = some text := by
  have shown : s.notifier = _ := h.trans (congrArg (·.state) (Notifier.run_notifyFor true text _ n))
  change (Notifier.settle.run s.notifier).state.message = some text
  rw [Notifier.run_settle_of_early (congrArg (·.pending) shown), shown]
  exact shown ▸ Nat.lt_add_of_pos_right time

/-- Every turn with an action that ends with a message puts one message on view, which is not empty
and tells how the action went, whatever the server and the clipboard say; it is still on view behind
the turn if messages stay for some time. To ask for the count, and a line for help, to quit or
without a command put none on view. -/
theorem notices_of_turn (s : Session) (t : Turn) :
    let r := t.take.run s
    (t.step.speaks = true → ∃ text, text ≠ "" ∧ notices r.trace = [text] ∧
      (0 < s.notifier.duration → r.state.notifier.message = some text) ∧
      t.step.Tells text r.value) ∧
    (t.step.speaks = false → (∀ call, t.step ≠ .notifier call) → notices r.trace = []) := by
  intro r
  let acted := t.step.act.run (t.prepare s)
  have taken : r = _ := Turn.run_take t s
  have trace : notices r.trace = notices acted.trace := by
    rw [taken, notices, List.filterMap_append]
    exact (congrArg (_ ++ ·) (notices_settle acted.state)).trans (List.append_nil _)
  refine ⟨fun speaks => ?_, fun silent other => ?_⟩
  · obtain ⟨x, text, full, tells, value, events, part⟩ := announces_act (t.prepare s) speaks
    refine ⟨text, full, trace.trans events, fun time => ?_, ?_⟩
    · rw [taken]
      exact message_settle part time
    · rw [taken]
      exact value ▸ tells
  · rw [trace]
    exact (unnoticed_act silent other (t.prepare s)).1

/-- A rejection that reads like a success is told as an error. -/
theorem notices_of_feigned_success :
    let feigned : Response := ⟨500, [], Text.Utf8.encode createdMessage.toList, false⟩
    ∃ server, Server.ofUrl "http://localhost:8080/api" = .ok server ∧
      let s := opened server ⟨true, []⟩ { duration := 2500 } none
      let r := (Turn.take { step := .shorten "u", replies := [.response feigned] }).run s
      r.value = .link none ∧ notices r.trace = ["Error: Short URL created"] ∧
        r.state.notifier.message = some "Error: Short URL created" := by
  intro feigned
  let base : Url :=
    ⟨"http", some ⟨"", none, "localhost", some 8080⟩, false, .segments ["api"], none, none⟩
  have accepted : Server.ofUrl "http://localhost:8080/api" = .ok ⟨base, rfl⟩ := rfl
  refine ⟨_, accepted, ?_⟩
  intro s r
  obtain ⟨text, -, shown, stays, -⟩ := (notices_of_turn s
    { step := .shorten "u", replies := [.response feigned] }).1 rfl
  have notice : notices r.trace = ["Error: Short URL created"] := by decide +kernel
  cases notice.symm.trans shown
  exact ⟨by decide +kernel, notice, stays (by decide)⟩

end Session

end Shortlink

import Mathlib.Data.List.Basic
import Shortlink.Proofs.Session.Panel
import Shortlink.Proofs.Session.Requests

/-!
# What is copied in a session

Two things put a text on the clipboard: to copy this text, and to copy the short URL of the link on
the panel. Nothing else looks at the clipboard at all, and to copy is to do nothing else: no request
is made, and neither the panel nor the count changes. `Clips` says so of every step, and from there
it goes over turns to runs, where the panel is the one that has been seen so far.
-/

namespace Shortlink

/-- The text that an event puts on the clipboard. -/
def Effect.copied? : Effect → Option String
  | .copied text => some text
  | _ => none

/-- The texts that the events of a trace put on the clipboard, in their order. -/
def copiedTexts (trace : List Effect) : List String := trace.filterMap Effect.copied?

/-- The panel that the events of a trace leave on view. -/
def panelOnView (trace : List Effect) : Panel := (panelUpdates trace).getLast?.getD none

/-- Whether a command is one to copy. -/
def Command.isCopy : Command → Bool
  | .copy => true
  | _ => false

/-- The text that a command is to copy, if there is one. -/
def Command.copies? (panel : Panel) : Command → Option String
  | .copy => panel.map (·.shortUrl)
  | _ => none

namespace Session

/-- Whether a step is one to copy. -/
def Step.isCopy : Step → Bool
  | .copy _ | .copyCurrent => true
  | .line text => (Command.parse text).isCopy
  | _ => false

/-- The text that a step is to copy, if there is one. -/
def Step.copies? (panel : Panel) : Step → Option String
  | .copy text => some text
  | .copyCurrent => panel.map (·.shortUrl)
  | .line text => (Command.parse text).copies? panel
  | _ => none

/-- Why the clipboard refuses texts behind some turns, if it does. -/
def refusalBehind (refusal : Option String) (ts : List Turn) : Option String :=
  ts.foldl (fun refusal t => t.clipboard.getD refusal) refusal

/-- The text that a turn copies behind some others: the one it is to copy, if the clipboard takes
it. Which text that is depends on what the others have left on view. -/
def textCopied? (s : Session) (before : List Turn) (t : Turn) : Option String :=
  if refusalBehind s.clipboardRefusal (before ++ [t]) = none then
    t.step.copies? (panelOnView ((takeTurns before).run s).trace)
  else none

/-- The texts that the turns of a run copy, each behind those in front of it. -/
def textsCopied (s : Session) (ts : List Turn) : List String :=
  ts.zipIdx.filterMap fun (t, i) => textCopied? s (ts.take i) t

/-- The same session with another clipboard. -/
def withClipboard (s : Session) (refusal : Option String) : Session :=
  { s with clipboardRefusal := refusal }

variable {α β : Type}

/-! ## Without the clipboard -/

/-- An action has nothing to do with the clipboard: it puts no text there, and it goes the same way
whether the clipboard takes texts or not. -/
structure Aloof (m : Action α) : Prop where
  run : ∀ (s : Session) (refusal : Option String),
    m.run (s.withClipboard refusal) =
      ⟨(m.run s).value, (m.run s).state.withClipboard refusal, (m.run s).trace⟩
  copies : ∀ s : Session, copiedTexts (m.run s).trace = []

namespace Aloof

/-- Nothing comes to the clipboard where nothing is done. -/
lemma pure (x : α) : Aloof (pure x) := ⟨fun _ _ => rfl, fun _ => rfl⟩

/-- Two actions have nothing to do with the clipboard if neither of them has. -/
lemma bind {m : Action α} {f : α → Action β} (h : Aloof m) (rest : ∀ x, Aloof (f x)) :
    Aloof (m >>= f) := by
  constructor
  · intro s refusal
    rw [Traced.run_bind, h.run, (rest _).run]
    rfl
  · intro s
    rw [Traced.run_bind, copiedTexts, List.filterMap_append]
    exact List.append_eq_nil_iff.2 ⟨h.copies s, (rest _).copies _⟩

/-- What is read of the session is not the clipboard. -/
lemma read_bind {f : Session → Action α} (blind : ∀ s refusal, f (s.withClipboard refusal) = f s)
    (rest : ∀ s, Aloof (f s)) : Aloof (Traced.read >>= f) := by
  constructor
  · intro s refusal
    change (f (s.withClipboard refusal)).run (s.withClipboard refusal) = _
    rw [blind, (rest s).run]
    rfl
  · exact fun s => (rest s).copies s

/-- An event that copies nothing has nothing to do with the clipboard. -/
lemma emit {e : Effect} (h : e.copied? = none) : Aloof (Traced.emit e) :=
  ⟨fun _ _ => rfl, fun _ => List.filterMap_cons_none h⟩

/-- Events of another kind copy nothing. -/
lemma copiedTexts_map {wrap : δ → Effect} (h : ∀ e, (wrap e).copied? = none) (es : List δ) :
    copiedTexts (es.map wrap) = [] := by
  rw [copiedTexts, List.filterMap_map, List.filterMap_eq_nil_iff]
  exact fun e _ => h e

/-- An exchange has nothing to do with the clipboard. -/
lemma exchange (f : Server → Exchange α) : Aloof (exchange f) :=
  ⟨fun _ _ => rfl, fun _ => copiedTexts_map (fun _ => rfl) _⟩

/-- A change of the panel has nothing to do with the clipboard. -/
lemma onPanel (c : Panel.Change α) : Aloof (onPanel c) :=
  ⟨fun _ _ => rfl, fun _ => copiedTexts_map (fun _ => rfl) _⟩

/-- A change of the notifications has nothing to do with the clipboard. -/
lemma onNotifier (c : Notifier.Change α) : Aloof (onNotifier c) :=
  ⟨fun _ _ => rfl, fun _ => copiedTexts_map (fun _ => rfl) _⟩

/-- A message has nothing to do with the clipboard. -/
lemma notify (message : String) : Aloof (notify message) := onNotifier _

/-- Refreshing the count has nothing to do with the clipboard. -/
lemma refreshCount : Aloof refreshCount :=
  bind (exchange _) fun _ => bind (onPanel _) fun _ => pure _

/-- The parts of an action have nothing to do with the clipboard if the middle one has not. -/
lemma inParts {ask : Server → Exchange β} {goOn : β → Action α} {counts : β → Bool}
    (h : ∀ answer, Aloof (goOn answer)) : Aloof (inParts ask goOn counts) := by
  apply bind (exchange ask)
  intro answer
  apply bind (h answer)
  intro x
  apply bind
  · cases counts answer with
    | true => exact bind refreshCount fun _ => pure _
    | false => exact pure _
  · exact fun _ => pure x

/-- Shortening has nothing to do with the clipboard. -/
lemma shorten (input : String) : Aloof (shorten input) := by
  rw [shorten_eq]
  apply inParts
  rintro (e | link)
  · exact bind (notify _) fun _ => pure _
  · exact bind (notify _) fun _ => bind (onPanel _) fun _ => pure _

/-- Deleting has nothing to do with the clipboard. -/
lemma delete (key : Key) : Aloof (delete key) := by
  rw [delete_eq]
  apply inParts
  intro outcome
  exact bind (onPanel _) fun _ => bind (notify _) fun _ => pure _

/-- Deleting the link on the panel has nothing to do with the clipboard. -/
lemma deleteCurrent : Aloof deleteCurrent := by
  apply read_bind (fun _ _ => rfl)
  intro s
  split
  · exact bind (delete _) fun _ => pure _
  · exact bind (notify _) fun _ => pure _

/-- Looking a key up has nothing to do with the clipboard. -/
lemma resolve (key : Key) : Aloof (resolve key) := by
  rw [resolve_eq]
  apply inParts
  rintro (e | _ | url) <;> exact bind (notify _) fun _ => pure _

end Aloof

/-! ## With the clipboard -/

/-- What an action has to do with the clipboard, whatever that takes: nothing, or it is to copy this
text and to make something of whether it is there then. -/
inductive Clips (s : Session) (m : Action α) : Option String → Prop
  | nothing {m' : Action α} :
    Aloof m' → (∀ refusal, m.run (s.withClipboard refusal) = m'.run (s.withClipboard refusal)) →
    Clips s m none
  | text {text : String} (f : Bool → α) :
    (∀ refusal, m.run (s.withClipboard refusal) =
      (do return f (← copy text) : Action α).run (s.withClipboard refusal)) →
    Clips s m (some text)

namespace Clips

variable {s : Session} {m : Action α} {text? : Option String}

/-- An action without the clipboard is to copy nothing. -/
lemma of_aloof (h : Aloof m) (s : Session) : Clips s m none := .nothing h fun _ => rfl

/-- What is made of the result in the end does not matter. -/
lemma map (h : Clips s m text?) (f : α → β) : Clips s (do return f (← m)) text? := by
  cases h with
  | nothing aloof same =>
    refine .nothing (aloof.bind fun x => .pure (f x)) fun refusal => ?_
    rw [Traced.run_bind, Traced.run_bind, same]
  | @text text g same =>
    refine .text (f ∘ g) fun refusal => ?_
    have parts : (do return (f ∘ g) (← copy text) : Action β) =
        (do return g (← copy text) : Action α) >>= fun x => pure (f x) := by
      rw [bind_assoc]
      rfl
    rw [parts, Traced.run_bind, Traced.run_bind, same]

/-- An action that begins with a look at the session. -/
lemma read_bind {f : Session → Action α} (blind : ∀ refusal, f (s.withClipboard refusal) = f s)
    (h : Clips s (f s) text?) : Clips s (Traced.read >>= f) text? := by
  have begins (refusal : Option String) : (Traced.read >>= f).run (s.withClipboard refusal) =
      (f s).run (s.withClipboard refusal) := by
    change (f (s.withClipboard refusal)).run (s.withClipboard refusal) = _
    rw [blind]
  cases h with
  | nothing aloof same => exact .nothing aloof fun refusal => (begins refusal).trans (same refusal)
  | text g same => exact .text g fun refusal => (begins refusal).trans (same refusal)

end Clips

/-- Copying a text is to copy that text. -/
lemma clips_copy (s : Session) (text : String) : Clips s (copy text) (some text) := by
  refine .text id fun refusal => ?_
  have whole : (do return id (← copy text) : Action Bool) = copy text := bind_pure _
  rw [whole]

/-- Which text it is depends on the panel that is read first. -/
lemma clips_copyCurrent (s : Session) : Clips s copyCurrent (s.panel.map (·.shortUrl)) := by
  apply Clips.read_bind (fun _ => rfl)
  cases s.panel with
  | some link => exact clips_copy s link.shortUrl
  | none => exact .of_aloof ((Aloof.notify _).bind fun _ => .pure _) s

/-- A command is to copy the text that it names. -/
lemma clips_dispatch (s : Session) (c : Command) :
    Clips s (Shell.dispatch c) (c.copies? s.panel) := by
  cases c with
  | shorten url => exact .of_aloof ((Aloof.shorten url).bind fun _ => .pure _) s
  | delete key? =>
    cases key? with
    | some key => exact .of_aloof ((Aloof.delete key).bind fun _ => .pure _) s
    | none => exact .of_aloof (Aloof.deleteCurrent.bind fun _ => .pure _) s
  | copy => exact (clips_copyCurrent s).map fun _ => true
  | resolve key => exact .of_aloof ((Aloof.resolve key).bind fun _ => .pure _) s
  | count => exact .of_aloof (Aloof.refreshCount.bind fun _ => .pure _) s
  | help => exact .of_aloof ((Aloof.emit rfl).bind fun _ => .pure _) s
  | quit => exact .of_aloof (.pure _) s
  | empty => exact .of_aloof (.pure _) s
  | unknown line => exact .of_aloof ((Aloof.notify _).bind fun _ => .pure _) s

/-- A step has to do with the clipboard by the text that it is to copy. -/
lemma clips_act (step : Step) (s : Session) : Clips s step.act (step.copies? s.panel) := by
  cases step with
  | refreshCount => exact .of_aloof (Aloof.refreshCount.bind fun _ => .pure _) s
  | shorten input => exact .of_aloof ((Aloof.shorten input).bind fun _ => .pure _) s
  | delete key => exact .of_aloof ((Aloof.delete key).bind fun _ => .pure _) s
  | deleteCurrent => exact .of_aloof (Aloof.deleteCurrent.bind fun _ => .pure _) s
  | copy text => exact (clips_copy s text).map Answer.yes
  | copyCurrent => exact (clips_copyCurrent s).map Answer.yes
  | resolve key => exact .of_aloof ((Aloof.resolve key).bind fun _ => .pure _) s
  | line text => exact (clips_dispatch s (Command.parse text)).map Answer.yes
  | notifier call => exact .of_aloof ((Aloof.onNotifier _).bind fun _ => .pure _) s

/-! ## What is seen of it -/

/-- Why the clipboard refuses texts, if it does, and the texts that come there. -/
def clipboardWindow : Window Session Effect (Option String) String where
  part s := s.clipboardRefusal
  event := Effect.copied?

/-- An action without the clipboard is not seen there. -/
lemma Aloof.misses {m : Action α} (h : Aloof m) : clipboardWindow.Misses m := by
  intro s
  refine ⟨h.copies s, ?_⟩
  have own : m.run s = ⟨_, (m.run s).state.withClipboard s.clipboardRefusal, _⟩ :=
    h.run s s.clipboardRefusal
  rw [own]
  rfl

/-- A text comes to the clipboard if that takes it. -/
lemma shows_writeClipboard (s : Session) (text : String) :
    clipboardWindow.Shows (writeClipboard text) s
      (if s.clipboardRefusal = none then some text else none).toList s.clipboardRefusal := by
  rw [Window.Shows, writeClipboard, Traced.run_bind, Traced.run_read]
  cases refusal : s.clipboardRefusal with
  | none => exact ⟨rfl, refusal⟩
  | some reason => exact ⟨rfl, refusal⟩

/-- A text that is copied comes to the clipboard if that takes it. -/
lemma shows_copy (s : Session) (text : String) :
    clipboardWindow.Shows (copy text) s
      (if s.clipboardRefusal = none then some text else none).toList s.clipboardRefusal := by
  apply (shows_writeClipboard s text).bind_misses
  split
  · exact ((Aloof.notify _).bind fun _ => .pure _).misses
  · exact ((Aloof.notify _).bind fun _ => .pure _).misses

/-- A text that is to be copied is put on the clipboard if that takes it. -/
lemma Clips.shows {s : Session} {m : Action α} {text? : Option String} (h : Clips s m text?) :
    clipboardWindow.Shows m s (if s.clipboardRefusal = none then text? else none).toList
      s.clipboardRefusal := by
  cases h with
  | nothing aloof same =>
    rw [Window.Shows, show m.run s = _ from same s.clipboardRefusal, ite_self]
    exact aloof.misses s
  | text f same =>
    rw [Window.Shows, show m.run s = _ from same s.clipboardRefusal]
    exact (shows_copy s _).bind_misses (Aloof.pure _).misses

/-- Where nothing is to be copied it makes no difference what the clipboard takes. -/
lemma Clips.run_withClipboard {s : Session} {m : Action α} (h : Clips s m none)
    (refusal : Option String) :
    m.run (s.withClipboard refusal) =
      ⟨(m.run s).value, (m.run s).state.withClipboard refusal, (m.run s).trace⟩ := by
  obtain ⟨aloof, same⟩ := h
  rw [same refusal, show m.run s = _ from same s.clipboardRefusal]
  exact aloof.run s refusal

/-! ## Turns -/

/-- The timer has nothing to do with the clipboard. -/
lemma aloof_settle : Aloof (onNotifier Notifier.settle) := .onNotifier _

/-- So it is with a turn, where the clipboard may have changed in front of it. -/
lemma shows_take (t : Turn) (s : Session) :
    clipboardWindow.Shows t.take s
      (if t.clipboard.getD s.clipboardRefusal = none then t.step.copies? s.panel else none).toList
      (t.clipboard.getD s.clipboardRefusal) := by
  have last (answer : Answer) : Aloof (do onNotifier Notifier.settle; return answer) :=
    aloof_settle.bind fun _ => .pure _
  have acted : clipboardWindow.Shows
      (do let answer ← t.step.act; onNotifier Notifier.settle; return answer) (t.prepare s) _ _ :=
    (clips_act t.step (t.prepare s)).shows.bind_misses (last _).misses
  exact acted

/-- A turn in which nothing is to be copied is the same whatever becomes of the clipboard in it. -/
lemma run_take_of_nothing {t : Turn} {s : Session} (h : t.step.copies? s.panel = none)
    (clipboard : Option (Option String)) :
    (Turn.take { t with clipboard }).run s =
      ⟨(t.take.run s).value,
        (t.take.run s).state.withClipboard (clipboard.getD s.clipboardRefusal),
        (t.take.run s).trace⟩ := by
  have clips := clips_act t.step (t.prepare s)
  rw [show t.step.copies? (t.prepare s).panel = none from h] at clips
  have acted := clips.run_withClipboard (clipboard.getD s.clipboardRefusal)
  have prepared : Turn.prepare { t with clipboard } s =
    (t.prepare s).withClipboard (clipboard.getD s.clipboardRefusal) := rfl
  rw [Turn.run_take, Turn.run_take, prepared, acted]
  simp only [aloof_settle.run]

/-! ## To copy and nothing else -/

/-- A step to copy does one of two things, and makes something of whether that succeeded. -/
lemma act_of_isCopy {step : Step} (h : step.isCopy = true) :
    ∃ (m : Action Bool) (f : Bool → Answer),
      (m = copyCurrent ∨ ∃ text, m = copy text) ∧ step.act = do return f (← m) := by
  cases step with
  | copy text => exact ⟨copy text, .yes, .inr ⟨text, rfl⟩, rfl⟩
  | copyCurrent => exact ⟨copyCurrent, .yes, .inl rfl, rfl⟩
  | line text =>
    change (Command.parse text).isCopy = true at h
    refine ⟨copyCurrent, fun _ => .yes true, .inl rfl, ?_⟩
    rw [Step.act]
    cases c : Command.parse text with
    | copy => simp only [Shell.dispatch, bind_assoc, pure_bind]
    | _ => rw [c] at h; cases h
  | _ => cases h

/-- A step to copy asks nothing of the server. -/
lemma offline_of_isCopy {step : Step} (h : step.isCopy = true) : Offline step.act := by
  obtain ⟨m, f, rfl | ⟨text, rfl⟩, act⟩ := act_of_isCopy h
  · rw [act]
    exact Offline.copyCurrent.bind fun _ => .pure _
  · rw [act]
    exact (Offline.copy text).bind fun _ => .pure _

/-- A step to copy leaves the panel as it is. -/
lemma misses_of_isCopy {step : Step} (h : step.isCopy = true) : panelWindow.Misses step.act := by
  obtain ⟨m, f, rfl | ⟨text, rfl⟩, act⟩ := act_of_isCopy h
  · rw [act]
    exact misses_copyCurrent.bind fun _ => .pure _
  · rw [act]
    exact (misses_copy text).bind fun _ => .pure _

/-- The whole turn keeps to the session: nothing is asked of the server, no count is shown, and the
panel stays. -/
lemma take_of_isCopy {t : Turn} (h : t.step.isCopy = true) (s : Session) :
    requests (t.take.run s).trace = [] ∧ shownCounts (t.take.run s).trace = [] ∧
      panelUpdates (t.take.run s).trace = [] ∧ (t.take.run s).state.panel = s.panel := by
  have settles : Offline (onNotifier Notifier.settle) := .onNotifier fun _ quiet => quiet.settle
  have settled : panelWindow.Misses (onNotifier Notifier.settle) :=
    panelWindow_notifier.onNotifier fun _ quiet => quiet.settle
  have prepared : panelWindow.Misses (Traced.update t.prepare : Action Unit) :=
    .update fun _ => rfl
  have isLocal : ∀ e ∈ (t.take.run s).trace, e.isLocal = true := by
    rw [Turn.run_take]
    exact List.forall_mem_append.2
      ⟨(offline_of_isCopy h).isLocal _, settles.isLocal _⟩
  obtain ⟨updates, panel⟩ : panelWindow.Shows t.take s [] s.panel :=
    (prepared.bind fun _ => (misses_of_isCopy h).bind fun _ => settled.bind fun _ => .pure _) s
  exact ⟨requests_of_local isLocal, shownCounts_of_local isLocal, updates, panel⟩

/-! ## Runs -/

/-- The last turn that changes the clipboard decides how it is. -/
lemma refusalBehind_concat (refusal : Option String) (ts : List Turn) (t : Turn) :
    refusalBehind refusal (ts ++ [t]) = t.clipboard.getD (refusalBehind refusal ts) := by
  rw [refusalBehind, List.foldl_append]
  rfl

/-- What one more turn adds to the texts. -/
lemma textsCopied_concat (s : Session) (ts : List Turn) (t : Turn) :
    textsCopied s (ts ++ [t]) = textsCopied s ts ++ (textCopied? s ts t).toList := by
  have last : (ts ++ [t]).take ts.length = ts := List.take_left' rfl
  rw [textsCopied, List.zipIdx_append, List.filterMap_append, List.zipIdx_singleton, Nat.zero_add]
  congr 1
  · -- in front of the others there is the same with one more turn at the end
    apply List.filterMap_congr
    rintro ⟨t', i⟩ mem
    have within : i < ts.length := by simpa using (List.mem_zipIdx mem).2.1
    exact congrArg (textCopied? s · t') (List.take_append_of_le_length (Nat.le_of_lt within))
  · simp only [List.filterMap_cons, List.filterMap_nil, last]
    cases textCopied? s ts t <;> rfl

section Run

variable (server : Server) (network : Network) (notifier : Notifier) (refusal : Option String)

/-- Behind a run the panel holds what the events have left on view. -/
lemma panel_takeTurns (ts : List Turn) :
    let r := (takeTurns ts).run (opened server network notifier refusal)
    r.state.panel = panelOnView r.trace :=
  (mirrored_takeTurns server network notifier refusal ts).panel

/-- The texts are copied turn by turn, and the clipboard changes with the turns alone. -/
lemma shows_takeTurns (ts : List Turn) :
    clipboardWindow.Shows (takeTurns ts) (opened server network notifier refusal)
      (textsCopied (opened server network notifier refusal) ts) (refusalBehind refusal ts) := by
  induction ts using List.reverseRecOn with
  | nil => exact ⟨rfl, rfl⟩
  | append_singleton ts t ih =>
    obtain ⟨copied, refuses⟩ := ih
    obtain ⟨trace, state⟩ := run_takeTurns_concat ts t (opened server network notifier refusal)
    have held := panel_takeTurns server network notifier refusal ts
    let s := ((takeTurns ts).run (opened server network notifier refusal)).state
    obtain ⟨copied', refuses'⟩ := shows_take t s
    rw [show s.clipboardRefusal = _ from refuses] at copied' refuses'
    rw [show s.panel = _ from held] at copied'
    constructor
    · rw [trace, List.filterMap_append, copied, copied', textsCopied_concat, textCopied?,
        refusalBehind_concat]
      rfl
    · rw [state, refuses', refusalBehind_concat]

/-- The texts on the clipboard behind every run: in their order those that were to be copied, as far
as the clipboard took them. For the link on the panel it is the short URL of the link that was put
on view last and not cleared since. In a turn in which nothing is to be copied, be it for want of a
link, the clipboard has no part: none of its texts is new, and all goes the same way whatever it
takes. And in a turn to copy, whether that succeeds or not, no request is made, no count is shown
and the panel stays as it is. -/
theorem copies_of_turns (ts : List Turn) :
    let s := opened server network notifier refusal
    let r := (takeTurns ts).run s
    copiedTexts r.trace = textsCopied s ts ∧
      ∀ t : Turn,
        let r' := t.take.run r.state
        (t.step.copies? (panelOnView r.trace) = none →
          copiedTexts r'.trace = [] ∧
            ∀ clipboard, (Turn.take { t with clipboard }).run r.state =
              ⟨r'.value, r'.state.withClipboard (clipboard.getD (refusalBehind refusal ts)),
                r'.trace⟩) ∧
          (t.step.isCopy = true →
            requests r'.trace = [] ∧ shownCounts r'.trace = [] ∧ panelUpdates r'.trace = [] ∧
              r'.state.panel = r.state.panel) := by
  intro s r
  obtain ⟨copied, refuses⟩ := shows_takeTurns server network notifier refusal ts
  have held : r.state.panel = panelOnView r.trace :=
    panel_takeTurns server network notifier refusal ts
  refine ⟨copied, fun t => ?_⟩
  intro r'
  refine ⟨fun nothing => ?_, fun copies => take_of_isCopy copies r.state⟩
  rw [← held] at nothing
  obtain ⟨copied', -⟩ := shows_take t r.state
  constructor
  · rw [nothing, ite_self] at copied'
    exact copied'
  · intro clipboard
    rw [run_take_of_nothing nothing]
    rw [show r.state.clipboardRefusal = _ from refuses]

end Run

/-- The short URL is copied once the clipboard takes it again, and not when it has been refused. -/
example :
    let link : Reply :=
      .response ⟨201, [], Text.Utf8.encode "\x7b\"key\":\"k\",\"short_url\":\"s\"\x7d".toList, false⟩
    textsCopied (opened .localhost ⟨true, []⟩ { duration := 2500 } none)
      [{ step := .copyCurrent }, { step := .shorten "u", replies := [link] },
        { step := .copyCurrent, clipboard := some (some "busy") },
        { step := .line " c ", clipboard := some none }, { step := .copy "t" }] = ["s", "t"] := by
  decide +kernel

end Session

end Shortlink

import Shortlink.Proofs.Server.Exchange
import Shortlink.Proofs.Session.Parts
import Shortlink.Proofs.Session.Turns

/-!
# The panel of a session

The panel holds the link that was put on view last, if it has not been cleared since. It changes in
two ways only: a link is shown when the server has answered a post with it, and the panel is cleared
when the server has answered that the very link on it is gone.
-/

namespace Shortlink

/-- What becomes of the panel by an event, if the event is about it. -/
def Effect.panel? : Effect → Option Panel
  | .shown (.panel link) => some link
  | _ => none

/-- What becomes of the panel by the events of a trace, in their order. -/
def panelUpdates (trace : List Effect) : List Panel := trace.filterMap Effect.panel?

/-- The URL that a command is to shorten, if there is one. -/
def Command.shortens? : Command → Option String
  | .shorten url => some url
  | _ => none

/-- The key whose link a command is to delete, if there is one. -/
def Command.deletes? (panel : Panel) : Command → Option Key
  | .delete (some key) => some key
  | .delete none => panel.map (·.key)
  | _ => none

namespace Session

/-- The URL that a step is to shorten, if there is one. -/
def Step.shortens? : Step → Option String
  | .shorten input => some input
  | .line text => (Command.parse text).shortens?
  | _ => none

/-- The key whose link a step is to delete, if there is one. -/
def Step.deletes? (panel : Panel) : Step → Option Key
  | .delete key => some key
  | .deleteCurrent => panel.map (·.key)
  | .line text => (Command.parse text).deletes? panel
  | _ => none

/-- A URL is shortened, and the response carries the link. -/
def Brings (s : Session) (input : String) (link : ShortLink) : Prop :=
  Text.isBlankText input = false ∧
    ∃ r, s.network.response? s.server.linksUrl = some r ∧ r.Carries link

/-- The link of a key is removed, and the response says that it is gone. -/
def Removes (s : Session) (key : Key) : Prop :=
  Text.isBlankText key = false ∧
    ∃ r, s.network.response? (s.server.keyUrl key) = some r ∧ (r.status = 200 ∨ r.status = 404)

/-- A step puts a link on the panel. -/
def Step.Shows (step : Step) (s : Session) (link : ShortLink) : Prop :=
  ∃ input, step.shortens? = some input ∧ s.Brings input link

/-- A step takes the link of a key off the panel. -/
def Step.Clears (step : Step) (s : Session) (key : Key) : Prop :=
  step.deletes? s.panel = some key ∧ s.Removes key ∧ ∃ link, s.panel = some link ∧ link.key = key

/-- The panel, and what becomes of it by an event. -/
def panelWindow : Window Session Effect Panel Panel where
  part s := s.panel
  event := Effect.panel?

/-- Neither the notifications nor the state behind them are seen in the panel. -/
lemma panelWindow_notifier : IgnoresNotifier panelWindow :=
  ⟨fun _ _ => rfl, fun _ => rfl⟩

/-- Neither the requests nor the network are seen in the panel. -/
lemma panelWindow_network : IgnoresNetwork panelWindow :=
  ⟨fun _ _ => rfl, fun _ => rfl⟩

/-- A message leaves the panel as it is. -/
lemma misses_notify (message : String) : panelWindow.Misses (notify message) :=
  panelWindow_notifier.notify message

/-- Refreshing the count leaves the panel as it is. -/
lemma misses_refreshCount : panelWindow.Misses refreshCount :=
  panelWindow_network.refreshCount fun _ => rfl

/-- Writing to the clipboard leaves the panel as it is. -/
lemma misses_writeClipboard (text : String) : panelWindow.Misses (writeClipboard text) := by
  apply Window.Misses.bind .read
  intro s
  split
  · exact .pure _
  · exact .bind (.emit rfl) fun _ => .pure _

/-- Copying a text leaves the panel as it is. -/
lemma misses_copy (text : String) : panelWindow.Misses (copy text) := by
  apply Window.Misses.bind (misses_writeClipboard text)
  intro written
  split
  · exact .bind (misses_notify _) fun _ => .pure _
  · exact .bind (misses_notify _) fun _ => .pure _

/-- Copying the link on the panel leaves it there. -/
lemma misses_copyCurrent : panelWindow.Misses copyCurrent := by
  apply Window.Misses.bind .read
  intro s
  split
  · exact misses_copy _
  · exact .bind (misses_notify _) fun _ => .pure _

/-- Looking a key up leaves the panel as it is. -/
lemma misses_resolve (key : Key) : panelWindow.Misses (resolve key) := by
  apply Window.Misses.bind (panelWindow_network.exchange _)
  intro found
  split
  · exact .bind (misses_notify _) fun _ => .pure _
  · exact .bind (misses_notify _) fun _ => .pure _
  · exact .bind (misses_notify _) fun _ => .pure _

/-- A link is put on the panel. -/
lemma shows_present (s : Session) (link : ShortLink) :
    panelWindow.Shows (onPanel (Panel.present link)) s [some link] (some link) :=
  ⟨rfl, rfl⟩

/-- Shortening puts the link on the panel that the response carries. -/
lemma shows_shorten {s : Session} {input : String} {link : ShortLink} (h : s.Brings input link) :
    panelWindow.Shows (shorten input) s [some link] (some link) := by
  have value : ((exchange (·.shorten input)).run s).value = .ok link := by
    rw [exchange_value]
    exact Server.shorten_ok_iff.2 h
  rw [shorten]
  apply (panelWindow_network.exchange _).bind_shows
  rw [value]
  apply (misses_notify _).bind_shows
  apply (shows_present _ link).bind_misses
  exact .bind misses_refreshCount fun _ => .pure _

/-- Shortening leaves the panel as it is where there is no link. -/
lemma shows_shorten_of_not_brings {s : Session} {input : String}
    (h : ∀ link, ¬ s.Brings input link) : panelWindow.Shows (shorten input) s [] s.panel := by
  rw [shorten]
  apply (panelWindow_network.exchange _ s).bind_misses
  cases value : ((exchange (·.shorten input)).run s).value with
  | ok link =>
    rw [exchange_value] at value
    exact absurd (Server.shorten_ok_iff.1 value) (h link)
  | error e =>
    cases e with
    -- nothing was sent, so no count is asked for
    | validation m => exact .bind (misses_notify _) fun _ => .pure _
    | _ => exact .bind (misses_notify _) fun _ => .bind misses_refreshCount fun _ => .pure _

/-- The panel holds a key exactly if its link has that key. -/
lemma holds_iff {panel : Panel} {key : Key} :
    panel.holds key = true ↔ ∃ link, panel = some link ∧ link.key = key := by
  cases panel <;> simp [Panel.holds]

/-- What is seen of a removal: whether the link of the key is on the panel and gone. -/
lemma shows_settleRemoval {s : Session} {key : Key} {outcome : Removal} {gone : Bool}
    (h : (s.panel.holds key && outcome.isGone) = gone) :
    panelWindow.Shows (onPanel (Panel.settleRemoval key outcome)) s (if gone then [none] else [])
      (if gone then none else s.panel) := by
  rw [Window.Shows, onPanel, Panel.settleRemoval]
  rw [Traced.run_focus, Traced.run_bind, Traced.run_read, h]
  cases gone with
  | true => exact ⟨rfl, rfl⟩
  | false => exact ⟨rfl, rfl⟩

/-- An exchange leaves the panel as it is. -/
lemma exchange_panel (f : Server → Exchange α) (s : Session) :
    ((exchange f).run s).state.panel = s.panel := rfl

/-- The same is seen of deleting, where the server tells what is gone. -/
lemma shows_delete {s : Session} {key : Key} {gone : Bool}
    (h : (s.panel.holds key && ((s.server.remove key).run s.network).value.isGone) = gone) :
    panelWindow.Shows (delete key) s (if gone then [none] else [])
      (if gone then none else s.panel) := by
  rw [← exchange_value (·.remove key), ← exchange_panel (·.remove key) s] at h
  have shows := shows_settleRemoval h
  rw [exchange_panel] at shows
  rw [delete]
  apply (panelWindow_network.exchange _).bind_shows
  apply shows.bind_misses
  exact .bind (misses_notify _) fun _ => .bind misses_refreshCount fun _ => .pure _

/-- What becomes of the panel where an input is to be shortened, or the link of a key to be
deleted, or neither. -/
inductive Affects (s : Session) (input? : Option String) (key? : Option Key) :
    List Panel → Panel → Prop
  | shows {input link} :
    input? = some input → s.Brings input link → Affects s input? key? [some link] (some link)
  | clears {key link} :
    key? = some key → s.Removes key → s.panel = some link → link.key = key →
    Affects s input? key? [none] none
  | keeps :
    (∀ input link, input? = some input → ¬ s.Brings input link) →
    (∀ key link, key? = some key → s.Removes key → s.panel = some link → link.key ≠ key) →
    Affects s input? key? [] s.panel

/-- That is what is seen of an action. -/
def Handles (m : Action α) (s : Session) (input? : Option String) (key? : Option Key) : Prop :=
  ∃ us p, panelWindow.Shows m s us p ∧ s.Affects input? key? us p

/-- An action that leaves the panel as it is may come behind. -/
lemma Handles.bind_misses {m : Action α} {f : α → Action β} {s : Session} {input? key?}
    (h : Handles m s input? key?) (rest : ∀ x, panelWindow.Misses (f x)) :
    Handles (m >>= f) s input? key? := by
  obtain ⟨us, p, shows, affects⟩ := h
  exact ⟨us, p, shows.bind_misses (rest _), affects⟩

/-- Looking at the session first makes no difference to the panel. -/
lemma Handles.read_bind {f : Session → Action α} {s : Session} {input? key?}
    (h : Handles (f s) s input? key?) : Handles (Traced.read >>= f) s input? key? := by
  obtain ⟨us, p, shows, affects⟩ := h
  exact ⟨us, p, Window.Misses.read.bind_shows shows, affects⟩

/-- An action that leaves the panel as it is neither shows nor clears anything. -/
lemma handles_of_misses {m : Action α} (h : panelWindow.Misses m) (s : Session) :
    Handles m s none none :=
  ⟨_, _, h s, .keeps (fun _ _ e => by cases e) (fun _ _ e => by cases e)⟩

/-- Shortening shows the link or leaves the panel as it is. -/
lemma handles_shorten (s : Session) (input : String) :
    Handles (shorten input) s (some input) none := by
  by_cases h : ∃ link, s.Brings input link
  · obtain ⟨link, h⟩ := h
    exact ⟨_, _, shows_shorten h, .shows rfl h⟩
  · rw [not_exists] at h
    refine ⟨_, _, shows_shorten_of_not_brings h, .keeps ?_ fun _ _ e => by cases e⟩
    rintro _ link ⟨⟩
    exact h link

/-- Deleting clears the panel of its key or leaves it as it is. -/
lemma handles_delete (s : Session) (key : Key) : Handles (delete key) s none (some key) := by
  cases gone : s.panel.holds key && ((s.server.remove key).run s.network).value.isGone with
  | true =>
    have shows := shows_delete gone
    rw [Bool.and_eq_true, holds_iff, Server.remove_isGone_iff] at gone
    obtain ⟨⟨link, held, same⟩, removes⟩ := gone
    exact ⟨_, _, shows, .clears rfl removes held same⟩
  | false =>
    have shows := shows_delete gone
    rw [← Bool.not_eq_true, Bool.and_eq_true, holds_iff, Server.remove_isGone_iff] at gone
    refine ⟨_, _, shows, .keeps (fun _ _ e => by cases e) ?_⟩
    rintro _ link ⟨⟩ removes held same
    exact gone ⟨⟨link, held, same⟩, removes⟩

/-- Deleting the link on the panel clears it or leaves it as it is. -/
lemma handles_deleteCurrent (s : Session) :
    Handles deleteCurrent s none (s.panel.map (·.key)) := by
  -- which key is meant depends on the panel that is read first
  apply Handles.read_bind
  cases s.panel with
  | some link => exact (handles_delete s link.key).bind_misses fun _ => .pure _
  | none => exact handles_of_misses (.bind (misses_notify _) fun _ => .pure _) s

/-- A command does to the panel what it shortens and deletes. -/
lemma handles_dispatch (s : Session) (c : Command) :
    Handles (Shell.dispatch c) s c.shortens? (c.deletes? s.panel) := by
  cases c with
  | shorten url => exact (handles_shorten s url).bind_misses fun _ => .pure _
  | delete key? =>
    cases key? with
    | some key => exact (handles_delete s key).bind_misses fun _ => .pure _
    | none => exact (handles_deleteCurrent s).bind_misses fun _ => .pure _
  | copy => exact handles_of_misses (.bind misses_copyCurrent fun _ => .pure _) s
  | resolve key => exact handles_of_misses (.bind (misses_resolve key) fun _ => .pure _) s
  | count => exact handles_of_misses (.bind misses_refreshCount fun _ => .pure _) s
  | help => exact handles_of_misses (.bind (.emit rfl) fun _ => .pure _) s
  | quit => exact handles_of_misses (.pure _) s
  | empty => exact handles_of_misses (.pure _) s
  | unknown line => exact handles_of_misses (.bind (misses_notify _) fun _ => .pure _) s

/-- What is seen of a step is what it shortens and what it deletes. -/
theorem handles_act (step : Step) (s : Session) :
    Handles step.act s step.shortens? (step.deletes? s.panel) := by
  cases step with
  | refreshCount => exact handles_of_misses (.bind misses_refreshCount fun _ => .pure _) s
  | shorten input => exact (handles_shorten s input).bind_misses fun _ => .pure _
  | delete key => exact (handles_delete s key).bind_misses fun _ => .pure _
  | deleteCurrent => exact (handles_deleteCurrent s).bind_misses fun _ => .pure _
  | copy text => exact handles_of_misses (.bind (misses_copy text) fun _ => .pure _) s
  | copyCurrent => exact handles_of_misses (.bind misses_copyCurrent fun _ => .pure _) s
  | resolve key => exact handles_of_misses (.bind (misses_resolve key) fun _ => .pure _) s
  | line text => exact (handles_dispatch s (Command.parse text)).bind_misses fun _ => .pure _
  | notifier call =>
    have called : panelWindow.Misses (onNotifier (Notifier.call call)) :=
      panelWindow_notifier.onNotifier fun _ quiet => quiet.call call
    exact handles_of_misses (.bind called fun _ => .pure _) s

/-- So it is with a turn, where the step finds the session prepared for it. -/
lemma affects_take (t : Turn) (s : Session) :
    ∃ us p, panelWindow.Shows t.take s us p ∧
      (t.prepare s).Affects t.step.shortens? (t.step.deletes? s.panel) us p := by
  have prepared : panelWindow.Misses (Traced.update t.prepare : Action Unit) :=
    .update fun _ => rfl
  have settled : panelWindow.Misses (onNotifier Notifier.settle) :=
    panelWindow_notifier.onNotifier fun _ quiet => quiet.settle
  obtain ⟨us, p, shows, affects⟩ := handles_act t.step (t.prepare s)
  refine ⟨us, p, ?_, affects⟩
  apply prepared.bind_shows
  apply shows.bind_misses
  exact .bind settled fun _ => .pure _

/-- A step that shortens a URL deletes nothing. -/
lemma Step.deletes?_of_shortens? {step : Step} {input : String}
    (h : step.shortens? = some input) (panel : Panel) : step.deletes? panel = none := by
  cases step with
  | shorten input => rfl
  | line text =>
    change (Command.parse text).shortens? = some input at h
    change (Command.parse text).deletes? panel = none
    cases c : Command.parse text with
    | shorten url => rfl
    | _ => rw [c] at h; cases h
  | _ => cases h

/-- A response brings one link at most. -/
lemma Brings.unique {s : Session} {input : String} {link link' : ShortLink}
    (h : s.Brings input link) (h' : s.Brings input link') : link = link' := by
  rw [Brings, ← Server.shorten_ok_iff] at h h'
  exact Except.ok.inj (h.symm.trans h')

/-- What comes last is on the panel then, and without anything it stays. -/
lemma Affects.panel {s : Session} {input? key? us p} (h : s.Affects input? key? us p) :
    p = us.getLast?.getD s.panel := by
  cases h <;> rfl

/-- A step changes the panel once at most. -/
lemma Affects.length_le {s : Session} {input? key? us p} (h : s.Affects input? key? us p) :
    us.length ≤ 1 := by
  cases h <;> simp

/-- A link comes on view exactly if the step shows it. -/
lemma Affects.shows_iff {s : Session} {step : Step} {us p}
    (h : s.Affects step.shortens? (step.deletes? s.panel) us p) (link : ShortLink) :
    some link ∈ us ↔ step.Shows s link := by
  cases h with
  | @shows input link' asked brings =>
    constructor
    · intro mem
      cases List.mem_singleton.1 mem
      exact ⟨input, asked, brings⟩
    · rintro ⟨input', asked', brings'⟩
      cases asked.symm.trans asked'
      rw [brings.unique brings']
      exact List.mem_singleton_self _
  | clears asked =>
    constructor
    · intro mem
      cases List.mem_singleton.1 mem
    · rintro ⟨input, asked', -⟩
      rw [Step.deletes?_of_shortens? asked'] at asked
      cases asked
  | keeps unbrought _ =>
    constructor
    · intro mem
      cases mem
    · rintro ⟨input, asked, brings⟩
      exact absurd brings (unbrought input link asked)

/-- The panel is cleared exactly if the step clears it of some key. -/
lemma Affects.clears_iff {s : Session} {step : Step} {us p}
    (h : s.Affects step.shortens? (step.deletes? s.panel) us p) :
    none ∈ us ↔ ∃ key, step.Clears s key := by
  cases h with
  | shows asked =>
    constructor
    · intro mem
      cases List.mem_singleton.1 mem
    · rintro ⟨key, asked', -⟩
      rw [Step.deletes?_of_shortens? asked] at asked'
      cases asked'
  | clears asked removes held same =>
    constructor
    · intro _
      exact ⟨_, asked, removes, _, held, same⟩
    · intro _
      exact List.mem_singleton_self _
  | keeps _ kept =>
    constructor
    · intro mem
      cases mem
    · rintro ⟨key, asked, removes, link, held, same⟩
      exact absurd same (kept key link asked removes held)

/-- The panel holds what was put on view last, and every clear comes right after a link on view. -/
structure Mirrored (trace : List Effect) (s : Session) : Prop where
  panel : s.panel = (panelUpdates trace).getLast?.getD none
  clears : ∀ us vs, panelUpdates trace = us ++ none :: vs → ∃ link, us.getLast? = some (some link)

/-- With one more change of the panel at the end, the clears are those that were there before, and
the new one if it is a clear. -/
lemma clear_of_concat {ps us vs : List Panel} {p : Panel} (e : ps ++ [p] = us ++ none :: vs) :
    (p = none ∧ ps = us) ∨ ∃ vs', ps = us ++ none :: vs' := by
  rcases List.eq_nil_or_concat vs with rfl | ⟨vs', x, rfl⟩
  · obtain ⟨front, back⟩ := List.append_inj' e rfl
    cases back
    exact .inl ⟨rfl, front⟩
  · rw [List.concat_eq_append, ← List.cons_append, ← List.append_assoc] at e
    exact .inr ⟨vs', (List.append_inj' e rfl).1⟩

/-- What a turn adds at the end keeps the panel mirrored. -/
lemma Mirrored.take {trace : List Effect} {s : Session} (h : Mirrored trace s) (t : Turn) :
    Mirrored (trace ++ (t.take.run s).trace) (t.take.run s).state := by
  obtain ⟨us, p, ⟨events, part⟩, affects⟩ := affects_take t s
  have updates : panelUpdates (trace ++ (t.take.run s).trace) = panelUpdates trace ++ us := by
    rw [panelUpdates, List.filterMap_append]
    exact congrArg _ events
  refine ⟨?_, ?_⟩
  · change panelWindow.part (t.take.run s).state = _
    rw [part, affects.panel, updates, List.getLast?_append]
    change us.getLast?.getD s.panel = _
    rw [h.panel]
    cases us.getLast? <;> rfl
  · intro ps qs e
    rw [updates] at e
    cases affects with
    | shows =>
      obtain ⟨e, -⟩ | ⟨qs, e⟩ := clear_of_concat e
      · cases e
      · exact h.clears ps qs e
    | @clears key link _ _ held =>
      obtain ⟨-, rfl⟩ | ⟨qs, e⟩ := clear_of_concat e
      · -- the link that is cleared is on the panel, so it was the last to be shown
        change s.panel = some link at held
        rw [h.panel] at held
        cases last : (panelUpdates trace).getLast? with
        | none => rw [last] at held; cases held
        | some p =>
          rw [last] at held
          cases held
          exact ⟨link, rfl⟩
      · exact h.clears ps qs e
    | keeps =>
      rw [List.append_nil] at e
      exact h.clears ps qs e

/-- The panel is mirrored behind every run. -/
lemma mirrored_takeTurns (server : Server) (network : Network) (notifier : Notifier)
    (clipboardRefusal : Option String) (ts : List Turn) :
    let r := (takeTurns ts).run (opened server network notifier clipboardRefusal)
    Mirrored r.trace r.state := by
  refine takeTurns_induction (P := Mirrored) ⟨rfl, fun us vs e => ?_⟩ (fun t _ _ h => h.take t) ts
  cases us <;> cases e

/-- What is on the panel behind every run: the link that was put on view last, unless it was cleared
since. A turn puts a link on view exactly if the server brings it for a URL that is to be shortened,
and clears the panel exactly if the server removes the link of a key and the panel holds the link of
this very key; a turn does one of them or neither, and otherwise the panel stays. So every clear
comes right after a link on view. -/
theorem panel_after_turns (server : Server) (network : Network) (notifier : Notifier)
    (clipboardRefusal : Option String) (ts : List Turn) :
    let r := (takeTurns ts).run (opened server network notifier clipboardRefusal)
    r.state.panel = (panelUpdates r.trace).getLast?.getD none ∧
      (∀ us vs, panelUpdates r.trace = us ++ none :: vs →
        ∃ link, us.getLast? = some (some link)) ∧
      ∀ t : Turn,
        let s := t.prepare r.state
        let r' := t.take.run r.state
        (∀ link, some link ∈ panelUpdates r'.trace ↔ t.step.Shows s link) ∧
          (none ∈ panelUpdates r'.trace ↔ ∃ key, t.step.Clears s key) ∧
          (panelUpdates r'.trace).length ≤ 1 ∧
          r'.state.panel = (panelUpdates r'.trace).getLast?.getD r.state.panel := by
  intro r
  have mirrored : Mirrored r.trace r.state :=
    mirrored_takeTurns server network notifier clipboardRefusal ts
  refine ⟨mirrored.panel, mirrored.clears, ?_⟩
  intro t s r'
  obtain ⟨us, p, ⟨events, part⟩, affects⟩ := affects_take t r.state
  have updates : panelUpdates r'.trace = us := events
  have panel : r'.state.panel = p := part
  rw [updates, panel]
  exact ⟨affects.shows_iff, affects.clears_iff, affects.length_le, affects.panel⟩

end Session

end Shortlink

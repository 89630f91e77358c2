import Mathlib.Tactic.Lemma
import Shortlink.Notifier

/-!
# One move

What can happen to the notifications next, and all that comes of it: which updates there are, where
they come from, and the state behind them. A call and a turn of the runtime are moves of their own,
so that calls may follow each other without a turn in between. Between moves the notifications are
`Current`: a timer that waits or runs belongs to the message on show. `Current.step` says what a
move does from there; all that holds of runs is derived from it by cases, and no proof further on
opens a move.
-/

namespace Shortlink.Notifier

/-- What can happen next. -/
inductive Move
  /-- A call, without a turn of the runtime. -/
  | call (c : Call)
  /-- A turn of the runtime. -/
  | settle
  /-- A timer that was taken away runs all the same. Where timers are stopped as they are taken
  away, nothing comes of it. -/
  | stray (i : Nat)
deriving DecidableEq, Repr

/-- A move where timers are stopped as they are taken away. -/
def Move.act : Move → Change Unit
  | .call c => c.act
  | .settle => Notifier.settle
  | .stray _ => return

/-- Makes moves one after the other. -/
def makeMoves (ms : List Move) : Change Unit := ms.forM Move.act

/-- A move and the handle it is made through. The first handle is number 0, the others are its
clones, and all of them are handles to one state. A turn of the runtime needs none, and the number
does not matter there. -/
structure Access where
  handle : Nat
  move : Move
deriving DecidableEq, Repr

/-- Makes moves through handles one after the other. -/
def makeAccesses (as : List Access) : Change Unit := makeMoves (as.map (·.move))

/-- Where an update comes from: from a call, or from the timer of a generation. -/
inductive Origin
  | call (c : Call)
  | timer (generation : Option UInt64)
deriving DecidableEq, Repr

/-- An update as it stands in a log, with what the clock reads. -/
structure Entry where
  moment : Nat
  origin : Origin
  update : Update
deriving DecidableEq, Repr

/-- Where the updates of a move come from. -/
def Move.origin (n : Notifier) : Move → Origin
  | .call c => .call c
  | .settle | .stray _ => .timer (n.pending.map (·.generation))

/-- The updates of a move with their origins. -/
def Move.log (m : Move) (n : Notifier) : List Entry :=
  let r := m.act.run n
  r.trace.map (⟨r.state.now, m.origin n, ·⟩)

/-- The message that a call shows. -/
def Call.message? : Call → Option String
  | .notify _ message | .notifyFor _ message _ => some message
  | .dismiss | .advance _ => none

/-- How long a timer leaves the message of a call on show. There is none where no timer is
started. -/
def Call.lifetime? (duration : Nat) : Call → Option Nat
  | .notify true _ => some duration
  | .notifyFor true _ ms => some ms
  | _ => none

/-- Whether a call begins a new generation: it shows a message or dismisses one. -/
def Call.renews : Call → Bool
  | .notify _ _ | .notifyFor _ _ _ | .dismiss => true
  | .advance _ => false

/-- Whether a move begins a new generation. -/
def Move.renews : Move → Bool
  | .call c => c.renews
  | .settle | .stray _ => false

/-- The notifications behind a call that shows a message. The timer of the older message is taken
away, also where none is started for this one. -/
def showing (n : Notifier) (c : Call) (m : String) : Notifier :=
  { n.renew with
    message := some m
    pending := (c.lifetime? n.duration).map fun ms =>
      { generation := n.generation + 1, length := ms } }

/-- The notifications between two moves. -/
structure Current (n : Notifier) : Prop where
  /-- The timer belongs to the latest message. -/
  generation : ∀ t ∈ n.pending, t.generation = n.generation
  /-- There is something for it to hide. -/
  visible : n.pending.isSome → n.message.isSome

/-- What a move can do: its log, and the notifications behind it. -/
inductive Step (n : Notifier) : Move → List Entry → Notifier → Prop
  | shown {c m} :
    c.message? = some m →
    Step n (.call c) [⟨n.now, .call c, .notification (some m)⟩] (n.showing c m)
  | dismissed :
    Step n (.call .dismiss) [⟨n.now, .call .dismiss, .notification none⟩]
      { n.renew with message := none }
  | passed {ms} : Step n (.call (.advance ms)) [] { n with now := n.now + ms }
  | idle : n.pending = none → Step n .settle [] n
  /-- The timer is started, or it goes on running. -/
  | running {t} :
    n.pending = some t → n.now < t.deadlineAt n.now →
    Step n .settle [] { n with pending := some (t.start n.now) }
  | expired {t} :
    n.pending = some t → t.deadlineAt n.now ≤ n.now →
    Step n .settle [⟨n.now, .timer (some t.generation), .notification none⟩]
      { n with message := none, pending := none }
  | strayed {i} : Step n (.stray i) [] n

/-- The log of a move has its updates. -/
lemma Move.map_update_log (m : Move) (n : Notifier) :
    (m.log n).map (·.update) = (m.act.run n).trace := by
  simp [Move.log, Function.comp_def]

/-- What a move does is told by its run. -/
lemma Move.log_of_run {m : Move} {n n' : Notifier} {us : List Update}
    (run : m.act.run n = ⟨(), n', us⟩) :
    m.log n = us.map (⟨n'.now, m.origin n, ·⟩) ∧ (m.act.run n).state = n' := by
  rw [Move.log, run]
  exact ⟨rfl, rfl⟩

/-- All that comes of showing a message. -/
lemma run_notifyFor (timed : Bool) (m : String) (ms : Nat) (n : Notifier) :
    (notifyFor timed m ms).run n =
      ⟨(), { n.renew with
        message := some m
        pending := if timed then some { generation := n.generation + 1, length := ms } else none },
        [.notification (some m)]⟩ := by
  cases timed <;> simp [notifyFor, renew, schedule]

/-- A message is shown in the same way whether its time is given or is the default. -/
lemma Call.run_act_of_message {c : Call} {n : Notifier} {m : String} (h : c.message? = some m) :
    c.act.run n = ⟨(), n.showing c m, [.notification (some m)]⟩ := by
  cases c with
  | notify timed m' =>
    obtain rfl := Option.some.inj h
    cases timed <;> simp [Call.act, Notifier.notify, run_notifyFor, Call.lifetime?, showing]
  | notifyFor timed m' ms =>
    obtain rfl := Option.some.inj h
    cases timed <;> simp [Call.act, run_notifyFor, Call.lifetime?, showing]
  | dismiss => cases h
  | advance ms => cases h

/-- A turn of the runtime does nothing where there is no timer. -/
lemma run_settle_of_none {n : Notifier} (e : n.pending = none) : settle.run n = ⟨(), n, []⟩ := by
  simp [settle, e]

/-- It starts a timer, or leaves it running, while the time is not over. -/
lemma run_settle_of_early {n : Notifier} {t : Timer} (e : n.pending = some t)
    (early : n.now < t.deadlineAt n.now) :
    settle.run n = ⟨(), { n with pending := some (t.start n.now) }, []⟩ := by
  simp [settle, e, show ¬t.deadlineAt n.now ≤ n.now by omega]

/-- It hides the message of a timer whose time is over. -/
lemma run_settle_of_due {n : Notifier} {t : Timer} (e : n.pending = some t)
    (current : t.generation = n.generation) (due : t.deadlineAt n.now ≤ n.now) :
    settle.run n =
      ⟨(), { n with message := none, pending := none }, [.notification none]⟩ := by
  simp [settle, e, expire, current, due]

/-- What a turn of the runtime does. -/
lemma Current.step_settle {n : Notifier} (h : n.Current) :
    Step n .settle (Move.settle.log n) (settle.run n).state := by
  cases e : n.pending with
  | none =>
    obtain ⟨log, state⟩ := Move.log_of_run (m := .settle) (run_settle_of_none e)
    rw [log, show (settle.run n).state = _ from state]
    exact .idle e
  | some t =>
    by_cases due : t.deadlineAt n.now ≤ n.now
    · obtain ⟨log, state⟩ :=
        Move.log_of_run (m := .settle) (run_settle_of_due e (h.generation t e) due)
      rw [log, show (settle.run n).state = _ from state, Move.origin, e]
      exact .expired e due
    · have early := Nat.lt_of_not_le due
      obtain ⟨log, state⟩ := Move.log_of_run (m := .settle) (run_settle_of_early e early)
      rw [log, show (settle.run n).state = _ from state]
      exact .running e early

/-- What a move does between two others. -/
theorem Current.step {n : Notifier} (h : n.Current) (m : Move) :
    Step n m (m.log n) (m.act.run n).state := by
  have message {c : Call} {m : String} (shows : c.message? = some m) :
      Step n (.call c) ((Move.call c).log n) ((Move.call c).act.run n).state := by
    obtain ⟨log, state⟩ := Move.log_of_run (m := .call c) (Call.run_act_of_message (n := n) shows)
    rw [log, state]
    exact .shown shows
  cases m with
  | call c =>
    cases c with
    | notify timed m => exact message rfl
    | notifyFor timed m ms => exact message rfl
    | dismiss => exact .dismissed
    | advance ms => exact .passed
  | settle => exact h.step_settle
  | stray i => exact .strayed

/-- A step leaves no timer without its message. -/
lemma Step.current {n n' : Notifier} {m : Move} {es : List Entry} (st : Step n m es n')
    (h : n.Current) : n'.Current := by
  cases st with
  | @shown c m shows =>
    refine ⟨fun t mem => ?_, fun _ => rfl⟩
    obtain ⟨ms, -, rfl⟩ := Option.map_eq_some_iff.1 mem
    rfl
  | dismissed => constructor <;> simp [renew]
  | passed => exact ⟨h.generation, h.visible⟩
  | idle => exact h
  | @running t e =>
    refine ⟨fun t' mem => ?_, fun _ => h.visible (e ▸ rfl)⟩
    cases mem
    exact h.generation t e
  | expired => constructor <;> simp
  | strayed => exact h

/-- The notifications stay current from move to move. -/
lemma Current.after_move {n : Notifier} (h : n.Current) (m : Move) :
    (m.act.run n).state.Current :=
  (h.step m).current h

/-- There is no timer in the beginning. -/
lemma current_start (duration : Nat) : Current { duration } := by
  constructor <;> simp

end Shortlink.Notifier

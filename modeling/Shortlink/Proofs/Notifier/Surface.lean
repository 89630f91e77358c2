import Shortlink.Proofs.Notifier.Timeline

/-!
# What is on show

The notifications behind a run, read off the run: the message is the one that was shown last, unless
it was hidden since, and a timer is there exactly if the latest message or dismissal is a message
with a timer and the turns of the runtime since then do not span its time. A message without a timer
takes the older timer away and stays, whatever else happens before the next message or dismissal.
-/

namespace Shortlink.Notifier

/-- The notifications among updates. -/
def notifications (us : List Update) : List (Option String) :=
  us.filterMap fun
    | .notification message => some message
    | .count _ | .panel _ => none

/-- Whether the timer of a call is still there when the runtime has had its turns. -/
def Call.leaves (duration : Nat) (c : Call) (span : Option Nat) : Bool :=
  (c.lifetime? duration).isSome && !c.expires duration span

/-! ## The message -/

/-- The notifications of two runs come one behind the other. -/
lemma notifications_append (us vs : List Update) :
    notifications (us ++ vs) = notifications us ++ notifications vs :=
  List.filterMap_append

/-- A move leaves the message on show that it has shown last. -/
lemma Step.message {n n' : Notifier} {m : Move} {es : List Entry} (st : Step n m es n') :
    n'.message = (notifications (es.map (·.update))).getLast?.getD n.message := by
  cases st <;> rfl

/-- So does a run. -/
lemma Current.message_after_moves {n : Notifier} (h : n.Current) (moves : List Move) :
    ((makeMoves moves).run n).state.message =
      (notifications ((makeMoves moves).run n).trace).getLast?.getD n.message := by
  induction moves generalizing n with
  | nil => rfl
  | cons m moves ih =>
    have first := (h.step m).message
    rw [Move.map_update_log] at first
    rw [run_makeMoves_cons, ih (h.after_move m), first, notifications_append,
      List.getLast?_append]
    cases (notifications ((makeMoves moves).run (m.act.run n).state).trace).getLast? <;> rfl

/-! ## The timer -/

/-- A timer that is started for a call is there until the turns span its time. -/
lemma any_isNone_hide? (duration : Nat) (generation : UInt64) (c : Call) {times : List Nat}
    (sorted : times.Pairwise (· ≤ ·)) :
    (((c.lifetime? duration).map fun ms => ({ generation, length := ms } : Timer)).any fun t =>
        (hide? t times).isNone) =
      c.leaves duration (span? times) := by
  rw [Call.leaves, Call.expires]
  cases c.lifetime? duration with
  | none => rfl
  | some ms =>
    rw [Option.map_some, Option.any_some, Option.any_some, ← isSome_hide?_iff sorted generation ms]
    cases hide? { generation, length := ms } times <;> rfl

/-- Whether a timer is there behind a run: the one of the latest message, or the one that was there
in the beginning if there is no message and no dismissal. -/
lemma Current.isPending_after_moves {n : Notifier} (h : n.Current) (moves : List Move) :
    ((makeMoves moves).run n).state.isPending =
      (spans n.now moves).getLast?.elim
        (n.pending.any fun t => (hide? t (turns n.now moves)).isNone)
        fun (c, span) => c.leaves n.duration span := by
  induction moves generalizing n with
  | nil =>
    change n.pending.isSome = n.pending.any fun t => (hide? t []).isNone
    cases n.pending <;> rfl
  | cons m moves ih =>
    have st := h.step m
    rw [run_makeMoves_cons]
    refine (ih (h.after_move m)).trans ?_
    generalize m.log n = es at st
    generalize (m.act.run n).state = n' at st ⊢
    cases st with
    | @shown c m shows =>
      rw [spans_of_renews _ _ (Call.renews_of_message shows), List.getLast?_cons]
      change (spans n.now moves).getLast?.elim _ _ = _
      cases (spans n.now moves).getLast? with
      | none => exact any_isNone_hide? _ _ c (pairwise_turns n.now moves)
      | some last => rfl
    | dismissed =>
      rw [spans_of_renews _ _ rfl, List.getLast?_cons]
      change (spans n.now moves).getLast?.elim _ _ = _
      cases (spans n.now moves).getLast? <;> rfl
    | passed => rfl
    | idle none => simp [none, spans]
    | running e early => simp [e, spans, turns, hide?_of_early early]
    | expired e past => simp [e, spans, turns, hide?_of_due past]
    | strayed => rfl

/-- The timer of a call is there exactly if the turns do not span its time. -/
lemma Call.leaves_iff {duration : Nat} {c : Call} {span : Option Nat} :
    c.leaves duration span = true ↔
      ∃ ms, c.lifetime? duration = some ms ∧ ∀ time ∈ span, time < ms := by
  rw [leaves, expires]
  cases c.lifetime? duration <;> cases span <;> simp

/-- A timer is there exactly if the latest message or dismissal is a message with one, and the turns
of the runtime since then do not span its time. -/
lemma isPending_iff (duration : Nat) (moves : List Move) :
    ((makeMoves moves).run { duration }).state.isPending = true ↔
      ∃ c span ms, (spans 0 moves).getLast? = some (c, span) ∧ c.lifetime? duration = some ms ∧
        ∀ time ∈ span, time < ms := by
  rw [(current_start duration).isPending_after_moves]
  constructor
  · intro pending
    change (spans 0 moves).getLast?.elim false _ = true at pending
    cases last : (spans 0 moves).getLast? with
    | none => rw [last] at pending; cases pending
    | some latest =>
      rw [last] at pending
      obtain ⟨ms, life, early⟩ := Call.leaves_iff.1 pending
      exact ⟨latest.1, latest.2, ms, rfl, life, early⟩
  · rintro ⟨c, span, ms, last, life, early⟩
    rw [last]
    exact Call.leaves_iff.2 ⟨ms, life, early⟩

/-! ## Turns behind every call -/

/-- The last wait is the one behind the last command. -/
lemma getLast?_waits (finish : Nat) (timeline : List (Nat × Call)) :
    (waits finish timeline).getLast? =
      timeline.getLast?.map fun (time, c) => (c, some (finish - time)) := by
  induction timeline with
  | nil => rfl
  | cons first rest ih =>
    rw [waits, List.getLast?_cons, ih, List.getLast?_cons]
    cases rest with
    | nil => rfl
    | cons next rest => simp [List.getLast?_cons]

/-- The clock does not go back while calls are made. -/
lemma le_clock (now : Nat) (cs : List Call) : now ≤ clock now cs := by
  induction cs generalizing now with
  | nil => exact Nat.le_refl now
  | cons c cs ih =>
    cases c with
    | advance ms => exact Nat.le_of_add_right_le (ih (now + ms))
    | notify | notifyFor | dismiss => exact ih now

/-- No command comes later than the end. -/
lemma le_clock_of_mem {now time : Nat} {c : Call} {cs : List Call}
    (h : (time, c) ∈ commands now cs) : time ≤ clock now cs := by
  induction cs generalizing now with
  | nil => cases h
  | cons first cs ih =>
    cases first with
    | advance ms => exact ih h
    | notify | notifyFor | dismiss =>
      rcases List.mem_cons.1 h with same | later
      · cases same
        exact le_clock time cs
      · exact ih later

/-- With a turn right behind every call a timer is there until the clock reaches its deadline. -/
lemma isPending_prompt_iff (duration : Nat) (cs : List Call) :
    ((makeMoves (prompt cs)).run { duration }).state.isPending = true ↔
      ∃ time c ms, (commands 0 cs).getLast? = some (time, c) ∧ c.lifetime? duration = some ms ∧
        clock 0 cs < time + ms := by
  rw [isPending_iff, spans_prompt, getLast?_waits]
  constructor
  · rintro ⟨c, span, ms, last, life, waits⟩
    obtain ⟨⟨time, c⟩, latest, same⟩ := Option.map_eq_some_iff.1 last
    cases same
    have := waits _ rfl
    exact ⟨time, c, ms, latest, life, by omega⟩
  · rintro ⟨time, c, ms, last, life, ahead⟩
    have := le_clock_of_mem (List.mem_of_getLast? last)
    refine ⟨c, some (clock 0 cs - time), ms, by rw [last]; rfl, life, fun wait mem => ?_⟩
    cases mem
    omega

/-! ## Messages without a timer -/

/-- Nothing happens without a timer, except that time passes. -/
lemma run_of_untimed {n : Notifier} (e : n.pending = none) {moves : List Move}
    (calm : ∀ m ∈ moves, m.renews = false) :
    ∃ now, (makeMoves moves).run n = ⟨(), { n with now }, []⟩ := by
  induction moves generalizing n with
  | nil => exact ⟨n.now, rfl⟩
  | cons m moves ih =>
    have passes : ∃ now, m.act.run n = ⟨(), { n with now }, []⟩ := by
      cases m with
      | call c =>
        cases c with
        | advance ms => exact ⟨n.now + ms, rfl⟩
        | notify | notifyFor | dismiss => cases calm _ List.mem_cons_self
      | settle => exact ⟨n.now, run_settle_of_none e⟩
      | stray i => exact ⟨n.now, rfl⟩
    obtain ⟨now, first⟩ := passes
    obtain ⟨now', rest⟩ := ih (n := { n with now }) e fun m mem =>
      calm m (List.mem_cons_of_mem _ mem)
    refine ⟨now', ?_⟩
    simp only [run_makeMoves_cons, first, rest, List.nil_append]

/-- A message without a timer is all that happens before the next message or dismissal. -/
lemma run_untimed_message {n : Notifier} {c : Call} {message : String}
    (shown : c.message? = some message) (life : c.lifetime? n.duration = none)
    {moves : List Move} (calm : ∀ m ∈ moves, m.renews = false) :
    ∃ now, (makeMoves (.call c :: moves)).run n =
      ⟨(), { n.renew with message := some message, now }, [.notification (some message)]⟩ := by
  have untimed : n.showing c message = { n.renew with message := some message } := by
    rw [showing, life]
    rfl
  have first : (Move.call c).act.run n = _ := Call.run_act_of_message shown
  rw [untimed] at first
  obtain ⟨now, rest⟩ := run_of_untimed (n := { n.renew with message := some message }) rfl calm
  refine ⟨now, ?_⟩
  simp only [run_makeMoves_cons, first, rest, List.append_nil]

/-- What is on show behind every run: whether a message is visible, which one it is, and whether a
timer is there, also where the runtime has had no turn yet. A timer is never there without a
message. A message that is shown without a timer, as `notify` and `notifyFor` do where none can be
started, leaves none behind, and it stays until the next message or dismissal. Where the runtime has
its turn right behind every call a timer is there until the clock reaches its deadline. -/
theorem surface_after_moves (duration : Nat) (as : List Access) :
    let moves := as.map (·.move)
    let r := (makeAccesses as).run { duration }
    (r.state.isVisible = true ↔ r.state.message.isSome = true) ∧
      r.state.message = (notifications r.trace).getLast?.getD none ∧
      (r.state.isPending = true ↔
        ∃ c span ms, (spans 0 moves).getLast? = some (c, span) ∧ c.lifetime? duration = some ms ∧
          ∀ time ∈ span, time < ms) ∧
      (r.state.isPending = true → r.state.isVisible = true) ∧
      (∀ (c : Call) (message : String) (handle : Nat) (later : List Access),
        (c = .notify false message ∨ ∃ ms, c = .notifyFor false message ms) →
        (∀ a ∈ later, a.move.renews = false) →
        let r' := (makeAccesses (as ++ ⟨handle, .call c⟩ :: later)).run { duration }
        r'.state.message = some message ∧ r'.state.isPending = false ∧
          r'.trace = r.trace ++ [.notification (some message)]) ∧
      ∀ cs, moves = prompt cs →
        (r.state.isPending = true ↔
          ∃ time c ms, (commands 0 cs).getLast? = some (time, c) ∧ c.lifetime? duration = some ms ∧
            clock 0 cs < time + ms) := by
  intro moves r
  have start := current_start duration
  have current : r.state.Current := start.after_moves moves
  refine ⟨Iff.rfl, start.message_after_moves moves, isPending_iff duration moves, current.visible,
    ?untimed, ?prompt⟩
  case untimed =>
    intro c message handle later hc calm r'
    have shown : c.message? = some message := by rcases hc with rfl | ⟨ms, rfl⟩ <;> rfl
    have life : c.lifetime? r.state.duration = none := by rcases hc with rfl | ⟨ms, rfl⟩ <;> rfl
    have moves' : (as ++ ⟨handle, .call c⟩ :: later).map (·.move) =
        moves ++ .call c :: later.map (·.move) := by
      simp [moves]
    have still : ∀ m ∈ later.map (·.move), m.renews = false := by simpa using calm
    obtain ⟨now, rest⟩ := run_untimed_message shown life still
    have run : r' = ⟨(), { r.state.renew with message := some message, now },
        r.trace ++ [.notification (some message)]⟩ := by
      rw [show r' = (makeMoves (moves ++ .call c :: later.map (·.move))).run { duration } from
        congrArg (fun moves => (makeMoves moves).run { duration }) moves', run_makeMoves_append]
      change (⟨(), ((makeMoves (.call c :: later.map (·.move))).run r.state).state,
        r.trace ++ ((makeMoves (.call c :: later.map (·.move))).run r.state).trace⟩ :
          Traced.Result Notifier Update Unit) = _
      rw [rest]
    rw [run]
    exact ⟨rfl, rfl, rfl⟩
  case prompt =>
    intro cs apart
    have pending := isPending_prompt_iff duration cs
    rwa [← apart] at pending

/-- A message without a timer takes the timer of the message in front of it away. With a turn right
behind every call a timer is there until its deadline. -/
theorem surface_after_moves_untimed :
    let as : List Access := (prompt [.notify true "a", .advance 2000]).map (⟨0, ·⟩)
    let later : List Access := [⟨0, .call (.advance 5000)⟩, ⟨0, .settle⟩]
    let r := (makeAccesses as).run { duration := 2500 }
    let r' := (makeAccesses (as ++ ⟨1, .call (.notify false "b")⟩ :: later)).run
      { duration := 2500 }
    r.state.isPending = true ∧ r'.state.message = some "b" ∧ r'.state.isPending = false ∧
      r'.trace = r.trace ++ [.notification (some "b")] :=
  ⟨((surface_after_moves 2500 _).2.2.2.2.2 [.notify true "a", .advance 2000] rfl).2
      ⟨0, .notify true "a", 2500, rfl, rfl, by decide⟩,
    (surface_after_moves 2500 _).2.2.2.2.1 (.notify false "b") "b" 1
      [⟨0, .call (.advance 5000)⟩, ⟨0, .settle⟩] (.inl rfl) (by decide)⟩

/-- The timer of a message that is to be shown for no time at all is there until the runtime gets
its turn, though the clock has reached its deadline at once. -/
theorem isPending_of_no_turn :
    let moves : List Move := [.call (.notifyFor true "m" 0)]
    let n := ((makeMoves moves).run { duration := 2500 }).state
    (n.isPending = true ∧ n.isVisible = true) ∧
      ¬∃ time c ms, (commands 0 (calls moves)).getLast? = some (time, c) ∧
        c.lifetime? 2500 = some ms ∧ clock 0 (calls moves) < time + ms := by
  refine ⟨by decide, ?_⟩
  rintro ⟨time, c, ms, last, life, ahead⟩
  cases last
  cases life
  exact absurd ahead (by decide)

end Shortlink.Notifier

import Shortlink.Proofs.Notifier.Timeline

/-!
# Expiry

Which messages a timer hides, and when. `expiries` reads it off the moves: a message that was shown
with a timer is hidden at the first turn of the runtime at which its time has passed since the first
turn behind it, if that comes before the next message or dismissal. `hides_eq_expiries` says that
these are all the hides of a run that no dismissal makes, one for each such message and in their
order, through whatever handles the calls are made; and that the updates of a run depend on its
spans alone. Where the runtime has its turn behind every call the clock decides: `timely` has the
first moments at which the deadlines are reached. Without these turns a message that is to be shown
for no time at all can be replaced before it is hidden, as `hides_ne_timely_of_no_turn` shows.
-/

namespace Shortlink.Notifier

/-- The hides that are due in a run: for every message with a timer the one of that timer, if there
is a turn for it before the next message or dismissal. Messages and dismissals are counted as
generations. -/
def expiries (duration : Nat) : Nat → UInt64 → List Move → List Entry
  | _, _, [] => []
  | now, generation, .call (.advance ms) :: moves => expiries duration (now + ms) generation moves
  | now, generation, .call c :: moves =>
    ((c.lifetime? duration).bind fun ms =>
      hide? { generation := generation + 1, length := ms } (turns now moves)).toList ++
        expiries duration now (generation + 1) moves
  | now, generation, .settle :: moves => expiries duration now generation moves
  | now, generation, .stray _ :: moves => expiries duration now generation moves

/-- What the clock reads at the ends of the steps, up to the next message or dismissal. -/
def moments (now : Nat) : List Call → List Nat
  | .advance ms :: cs => now :: moments (now + ms) cs
  | _ => [now]

/-- The hides of calls by the clock: for every message with a timer the one at the first moment at
which its deadline is reached, if that is before the next message or dismissal. -/
def timely (duration : Nat) : Nat → UInt64 → List Call → List Entry
  | _, _, [] => []
  | now, generation, .advance ms :: cs => timely duration (now + ms) generation cs
  | now, generation, c :: cs =>
    ((c.lifetime? duration).bind fun ms =>
      ((moments now cs).find? (now + ms ≤ ·)).map fun moment =>
        Entry.mk moment (.timer (some (generation + 1))) (.notification none)).toList ++
          timely duration now (generation + 1) cs

/-- Whether an entry is a hide that no dismissal makes. -/
def Entry.isExpiry (e : Entry) : Bool :=
  e.update == .notification none && e.origin != .call .dismiss

/-- A message or a dismissal is no hide of a timer. -/
lemma not_isExpiry_of_renews {c : Call} (h : c.renews = true) (now : Nat) :
    Entry.isExpiry ⟨now, .call c, .notification c.message?⟩ = false := by
  cases c with
  | notify | notifyFor | dismiss => rfl
  | advance => cases h

/-- What a timer makes is one. -/
lemma isExpiry_of_hide? {t : Timer} {times : List Nat} {e : Entry} (h : hide? t times = some e) :
    e.isExpiry = true := by
  obtain ⟨_, _, made⟩ := Option.bind_eq_some_iff.1 h
  obtain ⟨_, _, rfl⟩ := Option.map_eq_some_iff.1 made
  rfl

/-- The expiries are the hides of timers among all that is due. -/
lemma filter_isExpiry_due (duration now : Nat) (generation : UInt64) (moves : List Move) :
    (due duration now generation moves).filter Entry.isExpiry =
      expiries duration now generation moves := by
  induction moves generalizing now generation with
  | nil => rfl
  | cons m moves ih =>
    cases m with
    | settle => exact ih now generation
    | stray i => exact ih now generation
    | call c =>
      have command (renews : c.renews = true) :
          (Entry.mk now (.call c) (.notification c.message?) ::
            ((c.lifetime? duration).bind fun ms =>
              hide? { generation := generation + 1, length := ms } (turns now moves)).toList ++
            due duration now (generation + 1) moves).filter Entry.isExpiry =
          ((c.lifetime? duration).bind fun ms =>
            hide? { generation := generation + 1, length := ms } (turns now moves)).toList ++
              expiries duration now (generation + 1) moves := by
        rw [List.cons_append, List.filter_cons_of_neg (by simp [not_isExpiry_of_renews renews]),
          List.filter_append, ih, List.filter_eq_self.2]
        intro e mem
        obtain ⟨_, _, made⟩ := Option.bind_eq_some_iff.1 (Option.mem_toList.1 mem)
        exact isExpiry_of_hide? made
      cases c with
      | advance ms => exact ih (now + ms) generation
      | notify | notifyFor | dismiss => exact command rfl

/-- The turns behind a call are at the ends of the steps, and the first one is right behind it. -/
lemma turns_prompt (now : Nat) (cs : List Call) :
    now :: turns now (prompt cs) = moments now cs := by
  induction cs generalizing now with
  | nil => rfl
  | cons c cs ih =>
    cases c with
    | advance ms => exact congrArg (now :: ·) (ih (now + ms))
    | notify | notifyFor | dismiss => rfl

/-- With a turn right behind every call the expiries are decided by the clock. -/
lemma expiries_prompt (duration now : Nat) (generation : UInt64) (cs : List Call) :
    expiries duration now generation (prompt cs) = timely duration now generation cs := by
  induction cs generalizing now generation with
  | nil => rfl
  | cons c cs ih =>
    have command (ms : Nat) :
        hide? { generation := generation + 1, length := ms } (turns now (.settle :: prompt cs)) =
          ((moments now cs).find? (now + ms ≤ ·)).map fun moment =>
            ⟨moment, .timer (some (generation + 1)), .notification none⟩ := by
      rw [← turns_prompt]
      rfl
    cases c with
    | advance ms => exact ih (now + ms) generation
    | notify | notifyFor | dismiss =>
      simp only [prompt_cons, expiries, timely, command, ih]

/-- The hides that no dismissal makes are exactly the expiries, in their order; the log they are
taken from has all the updates of the run; and these are told by its spans, so that runs with the
same spans have the same updates, however time is cut into steps and whatever handles the calls go
through. Where the runtime has its turn right behind every call the hides are those that the clock
gives, and two runs with one timeline have the same updates. -/
theorem hides_eq_expiries (duration : Nat) (as : List Access) :
    let moves := as.map (·.move)
    let trace := ((makeAccesses as).run { duration }).trace
    (log moves { duration }).filter Entry.isExpiry = expiries duration 0 0 moves ∧
      (log moves { duration }).map (·.update) = trace ∧
      trace = (spans 0 moves).flatMap (fun (c, span) => c.updates duration span) ∧
      ∀ cs, moves = prompt cs →
        (log moves { duration }).filter Entry.isExpiry = timely duration 0 0 cs ∧
        ∀ (as' : List Access) (cs' : List Call),
          as'.map (·.move) = prompt cs' →
          commands 0 cs' = commands 0 cs → clock 0 cs' = clock 0 cs →
          ((makeAccesses as').run { duration }).trace = trace := by
  intro moves trace
  have hides : (log moves { duration }).filter Entry.isExpiry = expiries duration 0 0 moves := by
    rw [(current_start duration).log_eq]
    exact filter_isExpiry_due duration 0 0 moves
  refine ⟨hides, map_update_log moves _, updates_of_spans duration moves, ?prompt⟩
  case prompt =>
    intro cs apart
    refine ⟨by rw [hides, apart, expiries_prompt], ?_⟩
    intro as' cs' apart' same_commands same_clock
    have same : spans 0 (as'.map (·.move)) = spans 0 moves := by
      rw [apart, apart', spans_prompt, spans_prompt, same_commands, same_clock]
    exact (updates_of_spans duration _).trans (same ▸ (updates_of_spans duration moves).symm)

/-- Two runs with one timeline, each with a turn behind every call: a message is replaced by one
that goes at once, that one by another, whose deadline lies inside a step, and no timer is started
for the last. -/
theorem hides_eq_expiries_of_clones :
    let as : List Access :=
      (prompt [.notify true "a", .advance 1000, .notifyFor true "b" 0, .notifyFor true "c" 500,
        .advance 300, .advance 300, .notify false "d", .advance 9000]).map (⟨0, ·⟩)
    let as' : List Access :=
      (prompt [.notify true "a", .advance 400, .advance 600, .notifyFor true "b" 0,
        .notifyFor true "c" 500, .advance 600, .notify false "d", .advance 9000]).map (⟨1, ·⟩)
    (log (as.map (·.move)) { duration := 2500 }).filter Entry.isExpiry =
        [⟨1000, .timer (some 2), .notification none⟩,
          ⟨1600, .timer (some 3), .notification none⟩] ∧
      ((makeAccesses as').run { duration := 2500 }).trace =
        ((makeAccesses as).run { duration := 2500 }).trace :=
  ⟨(hides_eq_expiries 2500 _).1,
    ((hides_eq_expiries 2500 _).2.2.2
      [.notify true "a", .advance 1000, .notifyFor true "b" 0, .notifyFor true "c" 500,
        .advance 300, .advance 300, .notify false "d", .advance 9000] rfl).2 _
      [.notify true "a", .advance 400, .advance 600, .notifyFor true "b" 0,
        .notifyFor true "c" 500, .advance 600, .notify false "d", .advance 9000] rfl rfl rfl⟩

/-- A message that is to be shown for no time at all, and another one right behind it: the clock has
reached both deadlines in the end, and yet only the second message is hidden. The timer of the first
one is taken away before the runtime gets its turn. -/
theorem hides_ne_timely_of_no_turn :
    let moves : List Move :=
      [.call (.notifyFor true "b" 0), .call (.notifyFor true "c" 500), .settle,
        .call (.advance 500), .settle]
    let cs := calls moves
    (log moves { duration := 2500 }).filter Entry.isExpiry =
        [⟨500, .timer (some 2), .notification none⟩] ∧
      timely 2500 0 0 cs =
        [⟨0, .timer (some 1), .notification none⟩, ⟨500, .timer (some 2), .notification none⟩] := by
  decide

end Shortlink.Notifier

import Mathlib.Data.List.Pairwise
import Shortlink.Proofs.Notifier.Step

/-!
# Runs

A run of the notifications is a list of moves. All that comes of a message or a dismissal before the
next one is decided by the turns that the runtime has in between: `spans` gives each of them with
the time from the first of these turns to the last. `Current.log_eq` says what the log of a run is,
and `updates_of_spans` that its updates depend on the spans alone, so it does not matter how time is
cut into steps. Where the runtime has its turn right behind every call, as in `prompt` runs, the
spans are the times between the messages and dismissals.
-/

namespace Shortlink.Notifier

/-- What the clock reads at the turns of the runtime, up to the next message or dismissal. -/
def turns (now : Nat) : List Move → List Nat
  | [] => []
  | .call (.advance ms) :: moves => turns (now + ms) moves
  | .call _ :: _ => []
  | .settle :: moves => now :: turns now moves
  | .stray _ :: moves => turns now moves

/-- The time from the first of some turns to the last. -/
def span? (turns : List Nat) : Option Nat :=
  turns.head?.bind fun first => turns.getLast?.map (· - first)

/-- The messages and dismissals of a run, each with the time over which the runtime has turns before
the next one. -/
def spans (now : Nat) : List Move → List (Call × Option Nat)
  | [] => []
  | .call (.advance ms) :: moves => spans (now + ms) moves
  | .call c :: moves => (c, span? (turns now moves)) :: spans now moves
  | .settle :: moves => spans now moves
  | .stray _ :: moves => spans now moves

/-- The updates of a run with their origins. -/
def log : List Move → Notifier → List Entry
  | [], _ => []
  | m :: moves, n => m.log n ++ log moves (m.act.run n).state

/-- The hide that a timer makes: at the first turn at which its time is over. A timer that is still
to be started is started at the first of the turns. -/
def hide? (t : Timer) (turns : List Nat) : Option Entry :=
  turns.head?.bind fun first =>
    (turns.find? (t.deadlineAt first ≤ ·)).map fun moment =>
      ⟨moment, .timer (some t.generation), .notification none⟩

/-- What is due in a run: every message and dismissal, and behind a message with a timer the hide
of that timer. Messages and dismissals are counted as generations. -/
def due (duration : Nat) : Nat → UInt64 → List Move → List Entry
  | _, _, [] => []
  | now, generation, .call (.advance ms) :: moves => due duration (now + ms) generation moves
  | now, generation, .call c :: moves =>
    ⟨now, .call c, .notification c.message?⟩ ::
      ((c.lifetime? duration).bind fun ms =>
        hide? { generation := generation + 1, length := ms } (turns now moves)).toList ++
      due duration now (generation + 1) moves
  | now, generation, .settle :: moves => due duration now generation moves
  | now, generation, .stray _ :: moves => due duration now generation moves

/-- Whether the turns of the runtime behind a call span the time of its timer. -/
def Call.expires (duration : Nat) (c : Call) (span : Option Nat) : Bool :=
  (c.lifetime? duration).any fun ms => span.any (ms ≤ ·)

/-- What becomes visible of a call before the next message or dismissal. -/
def Call.updates (duration : Nat) (c : Call) (span : Option Nat) : List Update :=
  .notification c.message? :: if c.expires duration span then [.notification none] else []

/-! ## The definitions by the next move -/

section
variable {c : Call} (now : Nat) (moves : List Move)

/-- A message or a dismissal ends the turns of the one before. -/
lemma turns_of_renews (h : c.renews = true) : turns now (.call c :: moves) = [] := by
  cases c with
  | notify | notifyFor | dismiss => rfl
  | advance => cases h

/-- A message or a dismissal begins a span. -/
lemma spans_of_renews (h : c.renews = true) :
    spans now (.call c :: moves) = (c, span? (turns now moves)) :: spans now moves := by
  cases c with
  | notify | notifyFor | dismiss => rfl
  | advance => cases h

/-- A message or a dismissal begins a generation. -/
lemma due_of_renews (h : c.renews = true) (duration : Nat) (generation : UInt64) :
    due duration now generation (.call c :: moves) =
      ⟨now, .call c, .notification c.message?⟩ ::
        ((c.lifetime? duration).bind fun ms =>
          hide? { generation := generation + 1, length := ms } (turns now moves)).toList ++
        due duration now (generation + 1) moves := by
  cases c with
  | notify | notifyFor | dismiss => rfl
  | advance => cases h

/-- Showing a message is one way of beginning a generation. -/
lemma Call.renews_of_message {m : String} (h : c.message? = some m) : c.renews = true := by
  cases c with
  | notify | notifyFor | dismiss => rfl
  | advance => cases h

end

/-! ## Turns in time -/

/-- The clock does not go back. -/
lemma le_of_mem_turns {now moment : Nat} {moves : List Move} (h : moment ∈ turns now moves) :
    now ≤ moment := by
  induction moves generalizing now with
  | nil => cases h
  | cons m moves ih =>
    cases m with
    | call c =>
      cases c with
      | advance ms => exact Nat.le_of_add_right_le (ih h)
      | notify | notifyFor | dismiss => cases h
    | settle =>
      rcases List.mem_cons.1 h with rfl | later
      · exact Nat.le_refl _
      · exact ih later
    | stray i => exact ih h

/-- So the turns are in their order. -/
lemma pairwise_turns (now : Nat) (moves : List Move) : (turns now moves).Pairwise (· ≤ ·) := by
  induction moves generalizing now with
  | nil => exact .nil
  | cons m moves ih =>
    cases m with
    | call c =>
      cases c with
      | advance ms => exact ih _
      | notify | notifyFor | dismiss => exact .nil
    | settle => exact .cons (fun _ => le_of_mem_turns) (ih now)
    | stray i => exact ih now

/-- Some of these times is late enough if the last one is. -/
lemma isSome_find?_iff {times : List Nat} (sorted : times.Pairwise (· ≤ ·)) (d : Nat) :
    (times.find? (d ≤ ·)).isSome = true ↔ ∃ last ∈ times.getLast?, d ≤ last := by
  rw [List.find?_isSome]
  simp only [decide_eq_true_eq]
  constructor
  · rintro ⟨time, mem, late⟩
    have last := List.getLast?_eq_some_getLast (List.ne_nil_of_mem mem)
    exact ⟨_, last, Nat.le_trans late (sorted.rel_getLast mem)⟩
  · rintro ⟨last, mem, late⟩
    exact ⟨last, List.mem_of_getLast? mem, late⟩

/-! ## A timer through the turns -/

/-- A timer whose time is over at a turn hides there. -/
lemma hide?_of_due {t : Timer} {now : Nat} {later : List Nat} (past : t.deadlineAt now ≤ now) :
    hide? t (now :: later) = some ⟨now, .timer (some t.generation), .notification none⟩ := by
  simp [hide?, past]

/-- A timer whose time is not over at a turn is started there, or goes on running. -/
lemma hide?_of_early {t : Timer} {now : Nat} {later : List Nat} (early : now < t.deadlineAt now) :
    hide? t (now :: later) = hide? (t.start now) later := by
  rw [hide?, List.head?_cons, Option.bind_some,
    List.find?_cons_of_neg (by simpa using early)]
  cases later with
  | nil => rfl
  | cons next later => rfl

/-- A timer that is still to be started hides exactly if the turns span its time. -/
lemma isSome_hide?_iff {times : List Nat} (sorted : times.Pairwise (· ≤ ·)) (generation : UInt64)
    (ms : Nat) :
    (hide? { generation, length := ms } times).isSome = (span? times).any (ms ≤ ·) := by
  cases times with
  | nil => rfl
  | cons first later =>
    have last := List.getLast?_eq_some_getLast (List.cons_ne_nil first later)
    have ordered : first ≤ (first :: later).getLast _ := sorted.rel_getLast List.mem_cons_self
    have found := isSome_find?_iff sorted (first + ms)
    rw [last] at found
    rw [Bool.eq_iff_iff, hide?, span?, List.head?_cons, Option.bind_some, Option.isSome_map, last]
    refine found.trans ?_
    simp
    omega

/-- There is nothing to hide without a turn. -/
lemma bind_hide?_nil (t? : Option Timer) : (t?.bind fun t => hide? t []) = none := by
  cases t? <;> rfl

/-! ## Runs -/

/-- The first move is made first. -/
lemma run_makeMoves_cons (m : Move) (moves : List Move) (n : Notifier) :
    (makeMoves (m :: moves)).run n =
      let r := m.act.run n
      let r' := (makeMoves moves).run r.state
      ⟨(), r'.state, r.trace ++ r'.trace⟩ := rfl

/-- A run is made in parts. -/
lemma run_makeMoves_append (moves moves' : List Move) (n : Notifier) :
    (makeMoves (moves ++ moves')).run n =
      let r := (makeMoves moves).run n
      let r' := (makeMoves moves').run r.state
      ⟨(), r'.state, r.trace ++ r'.trace⟩ := by
  induction moves generalizing n with
  | nil => rfl
  | cons m moves ih => simp [run_makeMoves_cons, ih]

/-- The log of a run has its updates. -/
lemma map_update_log (moves : List Move) (n : Notifier) :
    (log moves n).map (·.update) = ((makeMoves moves).run n).trace := by
  induction moves generalizing n with
  | nil => rfl
  | cons m moves ih => simp [log, run_makeMoves_cons, ih, Move.map_update_log]

/-- Every run leaves no timer without its message. -/
lemma Current.after_moves {n : Notifier} (h : n.Current) (moves : List Move) :
    ((makeMoves moves).run n).state.Current := by
  induction moves generalizing n with
  | nil => exact h
  | cons m moves ih => exact ih (h.after_move m)

/-- The log of a run: first the hide of the timer that is there in the beginning, and then all that
is due. -/
lemma Current.log_eq {n : Notifier} (h : n.Current) (moves : List Move) :
    log moves n =
      (n.pending.bind fun t => hide? t (turns n.now moves)).toList ++
        due n.duration n.now n.generation moves := by
  induction moves generalizing n with
  | nil =>
    rw [turns, bind_hide?_nil]
    rfl
  | cons m moves ih =>
    have st := h.step m
    rw [log, ih (h.after_move m)]
    generalize m.log n = es at st ⊢
    generalize (m.act.run n).state = n' at st ⊢
    cases st with
    | @shown c m shows =>
      have renews := Call.renews_of_message shows
      rw [turns_of_renews _ _ renews, bind_hide?_nil, due_of_renews _ _ renews, shows]
      cases life : c.lifetime? n.duration <;> simp [showing, life, renew]
    | dismissed =>
      rw [turns_of_renews _ _ rfl, bind_hide?_nil]
      rfl
    | passed => rfl
    | idle none =>
      simp only [none]
      rfl
    | @running t e early =>
      have goes_on : (n.pending.bind fun t => hide? t (n.now :: turns n.now moves)) =
          hide? (t.start n.now) (turns n.now moves) := by
        rw [e, Option.bind_some, hide?_of_early early]
      rw [turns, goes_on]
      rfl
    | @expired t e past =>
      have hides : (n.pending.bind fun t => hide? t (n.now :: turns n.now moves)) =
          some ⟨n.now, .timer (some t.generation), .notification none⟩ := by
        rw [e, Option.bind_some, hide?_of_due past]
      rw [turns, hides]
      rfl
    | strayed => rfl

/-- What is due behind one call becomes visible. -/
lemma map_update_call (duration now : Nat) (generation : UInt64) (c : Call) {times : List Nat}
    (sorted : times.Pairwise (· ≤ ·)) :
    (Entry.mk now (.call c) (.notification c.message?) ::
        ((c.lifetime? duration).bind fun ms =>
          hide? { generation, length := ms } times).toList).map (·.update) =
      c.updates duration (span? times) := by
  rw [List.map_cons, Call.updates, Call.expires]
  cases c.lifetime? duration with
  | none => rfl
  | some ms =>
    rw [Option.bind_some, Option.any_some, ← isSome_hide?_iff sorted generation ms]
    cases hide : hide? { generation, length := ms } times with
    | none => rfl
    | some e =>
      obtain ⟨_, _, made⟩ := Option.bind_eq_some_iff.1 hide
      obtain ⟨_, _, rfl⟩ := Option.map_eq_some_iff.1 made
      rfl

/-- The updates that are due depend on the spans alone. -/
lemma map_update_due (duration now : Nat) (generation : UInt64) (moves : List Move) :
    (due duration now generation moves).map (·.update) =
      (spans now moves).flatMap fun (c, span) => c.updates duration span := by
  induction moves generalizing now generation with
  | nil => rfl
  | cons m moves ih =>
    cases m with
    | settle => exact ih now generation
    | stray i => exact ih now generation
    | call c =>
      cases renews : c.renews with
      | false =>
        cases c with
        | advance ms => exact ih (now + ms) generation
        | notify | notifyFor | dismiss => cases renews
      | true =>
        rw [due_of_renews _ _ renews, spans_of_renews _ _ renews, List.flatMap_cons,
          List.map_append, ih, map_update_call _ _ _ _ (pairwise_turns now moves)]

/-- What becomes visible in a run, by its spans. -/
lemma updates_of_spans (duration : Nat) (moves : List Move) :
    ((makeMoves moves).run { duration }).trace =
      (spans 0 moves).flatMap fun (c, span) => c.updates duration span := by
  rw [← map_update_log, (current_start duration).log_eq]
  exact map_update_due duration 0 0 moves

/-! ## Turns behind every call -/

/-- The calls among moves. -/
def calls (moves : List Move) : List Call :=
  moves.filterMap fun
    | .call c => some c
    | .settle | .stray _ => none

/-- Calls with a turn of the runtime right behind each of them. -/
def prompt (cs : List Call) : List Move := cs.flatMap fun c => [.call c, .settle]

/-- What the clock reads behind calls. -/
def clock (now : Nat) : List Call → Nat
  | [] => now
  | .advance ms :: cs => clock (now + ms) cs
  | _ :: cs => clock now cs

/-- The messages and dismissals among calls, each with what the clock reads. -/
def commands (now : Nat) : List Call → List (Nat × Call)
  | [] => []
  | .advance ms :: cs => commands (now + ms) cs
  | c :: cs => (now, c) :: commands now cs

/-- The calls of a timeline that ends at some time, each with the time up to the next one. -/
def waits (finish : Nat) : List (Nat × Call) → List (Call × Option Nat)
  | [] => []
  | (time, c) :: rest =>
    (c, some (rest.head?.elim finish (·.1) - time)) :: waits finish rest

/-- The first call has its turn of the runtime right behind it. -/
lemma prompt_cons (c : Call) (cs : List Call) :
    prompt (c :: cs) = .call c :: .settle :: prompt cs := rfl

/-- Calls and turns one behind the other are what `makeCalls` makes. -/
lemma run_makeMoves_prompt (cs : List Call) (n : Notifier) :
    (makeMoves (prompt cs)).run n = (makeCalls cs).run n := by
  induction cs generalizing n with
  | nil => rfl
  | cons c cs ih =>
    have first : (makeCalls (c :: cs)).run n =
        let r := (call c).run n
        let r' := (makeCalls cs).run r.state
        ⟨(), r'.state, r.trace ++ r'.trace⟩ := rfl
    simp [first, prompt_cons, run_makeMoves_cons, call, Move.act, ih]

/-- The last turn behind a call comes as time has passed up to the next message or dismissal. -/
lemma getLast_turns_prompt (now : Nat) (cs : List Call) :
    (now :: turns now (prompt cs)).getLast? =
      some ((commands now cs).head?.elim (clock now cs) (·.1)) := by
  induction cs generalizing now with
  | nil => rfl
  | cons c cs ih =>
    cases c with
    | advance ms => exact ih (now + ms)
    | notify | notifyFor | dismiss => rfl

/-- The spans where the runtime has its turn behind every call. -/
lemma spans_prompt (now : Nat) (cs : List Call) :
    spans now (prompt cs) = waits (clock now cs) (commands now cs) := by
  induction cs generalizing now with
  | nil => rfl
  | cons c cs ih =>
    -- the first turn behind a message or a dismissal comes at its own time
    have command (renews : c.renews = true) (time : clock now (c :: cs) = clock now cs)
        (head : commands now (c :: cs) = (now, c) :: commands now cs) :
        spans now (prompt (c :: cs)) = waits (clock now (c :: cs)) (commands now (c :: cs)) := by
      rw [prompt_cons, spans_of_renews _ _ renews, time, head, waits, ← ih, turns, span?,
        getLast_turns_prompt]
      rfl
    cases c with
    | advance ms => exact ih (now + ms)
    | notify | notifyFor | dismiss => exact command rfl rfl rfl

end Shortlink.Notifier

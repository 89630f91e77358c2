import Shortlink.Proofs.Notifier.Timeline

/-!
# Timers that nothing stops

A newer message and a dismissal take the running timer away. Here that does not stop it: it strays
and runs at some later moment all the same, whatever has happened in between. The generations alone
keep it from doing harm. As long as there are fewer messages and dismissals than generations, a
stray finds a generation that is not its own, and the notifications are the same as where every
timer that is taken away is stopped.
-/

namespace Shortlink.Notifier

/-- Notifications with the timers that were taken away and are still to run. -/
structure Straying where
  notifier : Notifier
  strays : List Timer := []

/-- Makes a change of the notifications; the strays stay as they are. -/
def onStraying (c : Change α) : Traced Straying Update α :=
  Traced.focus (·.notifier) (fun n s => { s with notifier := n }) id c

/-- Makes a change; the timer that it takes away strays. -/
def straying (c : Change Unit) : Traced Straying Update Unit := do
  let before := (← Traced.read).notifier.pending
  onStraying c
  Traced.update fun s =>
    let taken := if s.notifier.pending = before then none else before
    { s with strays := s.strays ++ taken.toList }

/-- A move where nothing stops a timer. A stray runs once. -/
def Move.actStraying : Move → Traced Straying Update Unit
  | .call c => straying c.act
  | .settle => onStraying Notifier.settle
  | .stray i => do
    match (← Traced.read).strays[i]? with
    | some t =>
      Traced.update fun s => { s with strays := s.strays.eraseIdx i }
      straying (expire t.generation)
    | none => return

/-- Makes moves one after the other, where nothing stops a timer. -/
def makeMovesStraying (ms : List Move) : Traced Straying Update Unit := ms.forM Move.actStraying

/-- Whether a move is the end of a stray. -/
def Move.isStray : Move → Bool
  | .stray _ => true
  | .call _ | .settle => false

/-- How many messages and dismissals there are. -/
def renewals (ms : List Move) : Nat := ms.countP Move.renews

/-- The notifications behind some messages and dismissals: their number gives the generation, the
timer that runs is of this generation, and the strays are of earlier ones. -/
structure Counted (k : Nat) (s : Straying) : Prop where
  generation : s.notifier.generation = .ofNat k
  current : ∀ t ∈ s.notifier.pending, t.generation = s.notifier.generation
  outdated : ∀ t ∈ s.strays, ∃ j < k, t.generation = .ofNat j

/-! ## What a move does -/

/-- A change that may take a timer away does to the notifications what it does. -/
lemma run_straying (c : Change Unit) (s : Straying) :
    (straying c).run s =
      let r := c.run s.notifier
      let taken := if r.state.pending = s.notifier.pending then none else s.notifier.pending
      ⟨(), ⟨r.state, s.strays ++ taken.toList⟩, r.trace⟩ := by
  simp only [straying, onStraying, Traced.run_bind, Traced.run_read, Traced.run_focus,
    Traced.run_update, List.nil_append, List.append_nil, List.map_id]
  rfl

/-- A stray was one before, or is the timer that was pending. -/
lemma mem_strays {c : Change Unit} {s : Straying} {t : Timer}
    (h : t ∈ ((straying c).run s).state.strays) : t ∈ s.strays ∨ t ∈ s.notifier.pending := by
  rw [run_straying, List.mem_append] at h
  rcases h with stray | taken
  · exact .inl stray
  · split at taken
    · cases taken
    · exact .inr (Option.mem_toList.1 taken)

/-- A timer of another generation does nothing. -/
lemma run_expire_of_ne {n : Notifier} {generation : UInt64} (h : n.generation ≠ generation) :
    (expire generation).run n = ⟨(), n, []⟩ := by
  rw [expire, Traced.run_bind, Traced.run_read, if_neg h]
  rfl

/-- A message and a dismissal begin the next generation, and a timer that is started is of it. -/
lemma Call.renewed {c : Call} (h : c.renews = true) (n : Notifier) :
    let n' := (c.act.run n).state
    n'.generation = n.generation + 1 ∧ ∀ t ∈ n'.pending, t.generation = n'.generation := by
  have message {m : String} (hm : c.message? = some m) :
      let n' := (c.act.run n).state
      n'.generation = n.generation + 1 ∧ ∀ t ∈ n'.pending, t.generation = n'.generation := by
    rw [Call.run_act_of_message hm]
    refine ⟨rfl, fun t mem => ?_⟩
    obtain ⟨ms, -, rfl⟩ := Option.map_eq_some_iff.1 mem
    rfl
  cases c with
  | notify | notifyFor => exact message rfl
  | dismiss => exact ⟨rfl, fun t mem => by cases mem⟩
  | advance ms => cases h

/-- There are fewer generations than this, so none comes twice. -/
lemma ofNat_ne {j k : Nat} (h : j < k) (few : k < UInt64.size) : UInt64.ofNat k ≠ .ofNat j := by
  intro same
  have := congrArg UInt64.toNat same
  rw [UInt64.toNat_ofNat', UInt64.toNat_ofNat', Nat.mod_eq_of_lt few,
    Nat.mod_eq_of_lt (Nat.lt_trans h few)] at this
  exact absurd this (Nat.ne_of_gt h)

/-- The timer that runs belongs to the message on show: it hides it, or another timer of its
generation goes on in its place. -/
lemma state_settle {n : Notifier} (current : ∀ t ∈ n.pending, t.generation = n.generation) :
    let n' := (settle.run n).state
    n'.generation = n.generation ∧ ∀ t ∈ n'.pending, t.generation = n.generation := by
  cases e : n.pending with
  | none =>
    rw [run_settle_of_none e]
    exact ⟨rfl, current⟩
  | some t =>
    by_cases due : t.deadlineAt n.now ≤ n.now
    · rw [run_settle_of_due e (current t e) due]
      exact ⟨rfl, fun t' mem => by cases mem⟩
    · rw [run_settle_of_early e (Nat.lt_of_not_le due)]
      refine ⟨rfl, fun t' mem => ?_⟩
      cases mem
      exact current t e

namespace Counted

variable {k : Nat} {s : Straying}

/-- A call counts on if it is a message or a dismissal. -/
lemma call (h : Counted k s) (c : Call) :
    Counted (k + (Move.call c).renews.toNat) ((Move.call c).actStraying.run s).state := by
  cases renews : c.renews with
  | true =>
    obtain ⟨next, started⟩ := Call.renewed renews s.notifier
    rw [← show ((Move.call c).actStraying.run s).state.notifier = (c.act.run s.notifier).state from
      congrArg (·.state.notifier) (run_straying c.act s)] at next started
    rw [show (Move.call c).renews = true from renews]
    refine ⟨?_, started, fun t mem => ?_⟩
    · rw [next, h.generation]
      exact (UInt64.ofNat_add k 1).symm
    · obtain stray | taken := mem_strays mem
      · obtain ⟨j, lt, e⟩ := h.outdated t stray
        exact ⟨j, Nat.lt_succ_of_lt lt, e⟩
      · exact ⟨k, Nat.lt_succ_self k, (h.current t taken).trans h.generation⟩
  | false =>
    cases c with
    | advance ms =>
      -- no timer is taken away while time passes
      have run : ((Move.call (.advance ms)).actStraying.run s).state =
          ⟨{ s.notifier with now := s.notifier.now + ms }, s.strays⟩ := by
        refine (congrArg (·.state) (run_straying (Call.advance ms).act s)).trans ?_
        simp [Call.act, advance]
      rw [run]
      exact ⟨h.generation, h.current, h.outdated⟩
    | notify | notifyFor | dismiss => cases renews

/-- The timer that has not been taken away hides the message of its own generation. -/
lemma settle (h : Counted k s) : Counted k (Move.settle.actStraying.run s).state := by
  obtain ⟨same, current⟩ := state_settle h.current
  exact ⟨same.trans h.generation, fun t mem => (current t mem).trans same.symm, h.outdated⟩

/-- A stray is of an earlier generation, and nothing comes of it. -/
lemma stray (h : Counted k s) (few : k < UInt64.size) (i : Nat) :
    (Move.stray i).actStraying.run s = ⟨(), ⟨s.notifier, s.strays.eraseIdx i⟩, []⟩ := by
  rw [Move.actStraying, Traced.run_bind, Traced.run_read]
  cases e : s.strays[i]? with
  | none => rw [List.eraseIdx_of_length_le (List.getElem?_eq_none_iff.1 e)]; rfl
  | some t =>
    obtain ⟨j, lt, born⟩ := h.outdated t (List.mem_of_getElem? e)
    have other : s.notifier.generation ≠ t.generation := by
      rw [h.generation, born]
      exact ofNat_ne lt few
    dsimp only
    rw [Traced.run_bind, Traced.run_update, run_straying, run_expire_of_ne other]
    simp

/-- One move is the same whether timers can be stopped or not. -/
lemma move (h : Counted k s) (few : k < UInt64.size) (m : Move) :
    let r := m.actStraying.run s
    r.trace = (m.act.run s.notifier).trace ∧ r.state.notifier = (m.act.run s.notifier).state ∧
      Counted (k + m.renews.toNat) r.state := by
  cases m with
  | call c =>
    refine ⟨?_, ?_, h.call c⟩
    · exact congrArg (·.trace) (run_straying c.act s)
    · exact congrArg (·.state.notifier) (run_straying c.act s)
  | settle => exact ⟨List.map_id _, rfl, h.settle⟩
  | stray i =>
    rw [h.stray few i]
    exact ⟨rfl, rfl, h.generation, h.current,
      fun t mem => h.outdated t (List.mem_of_mem_eraseIdx mem)⟩

end Counted

/-! ## Runs -/

/-- The first move is made first. -/
lemma run_makeMovesStraying_cons (m : Move) (ms : List Move) (s : Straying) :
    (makeMovesStraying (m :: ms)).run s =
      let r := m.actStraying.run s
      let r' := (makeMovesStraying ms).run r.state
      ⟨(), r'.state, r.trace ++ r'.trace⟩ := rfl

/-- The first move counts if it is a message or a dismissal. -/
lemma renewals_cons (m : Move) (ms : List Move) :
    renewals (m :: ms) = m.renews.toNat + renewals ms := by
  rw [renewals, List.countP_cons, Nat.add_comm, renewals]
  cases m.renews <;> rfl

/-- So it is with every run, as long as no generation comes twice. -/
lemma Counted.moves {k : Nat} {s : Straying} (h : Counted k s) (ms : List Move)
    (few : k + renewals ms < UInt64.size) :
    let r := (makeMovesStraying ms).run s
    let r' := (makeMoves ms).run s.notifier
    r.trace = r'.trace ∧ r.state.notifier = r'.state ∧ Counted (k + renewals ms) r.state := by
  induction ms generalizing k s with
  | nil => exact ⟨rfl, rfl, h⟩
  | cons m ms ih =>
    rw [renewals_cons, ← Nat.add_assoc] at few
    obtain ⟨events, same, counted⟩ := h.move (by omega) m
    obtain ⟨events', same', counted'⟩ := ih counted few
    rw [same] at events' same'
    rw [Nat.add_assoc, ← renewals_cons] at counted'
    simp only [run_makeMovesStraying_cons, run_makeMoves_cons]
    exact ⟨by rw [events, events'], same', counted'⟩

/-- The messages and dismissals of two runs add up. -/
lemma renewals_append (ms ms' : List Move) :
    renewals (ms ++ ms') = renewals ms + renewals ms' := List.countP_append

/-- Nothing is known of strays where timers are stopped. -/
lemma run_makeMoves_filter (ms : List Move) (n : Notifier) :
    (makeMoves (ms.filter fun m => !m.isStray)).run n = (makeMoves ms).run n := by
  induction ms generalizing n with
  | nil => rfl
  | cons m ms ih =>
    cases kept : !m.isStray with
    | true => simp only [List.filter_cons_of_pos, kept, run_makeMoves_cons, ih]
    | false =>
      cases m with
      | call | settle => cases kept
      | stray i => exact ih n

/-- Before the first message the count is zero. -/
lemma counted_first (duration : Nat) : Counted 0 ⟨{ duration }, []⟩ :=
  ⟨rfl, (fun t mem => by cases mem), (fun t mem => by cases mem)⟩

/-- Strays do nothing in a run with fewer messages and dismissals than generations. After every
move, what has been shown and the notifications are as where every timer that is taken away is
stopped. A timer from before the latest message or dismissal does nothing whenever it runs. Where
each call has the timer behind it, all is as in the program, however many strays run in between. -/
theorem makeMovesStraying_eq (duration : Nat) (ms : List Move) (few : renewals ms < UInt64.size) :
    (∀ front, front <+: ms →
      let r := (makeMovesStraying front).run ⟨{ duration }, []⟩
      let r' := (makeMoves front).run { duration }
      r.trace = r'.trace ∧ r.state.notifier = r'.state) ∧
    (∀ front back, ms = front ++ back → 0 < renewals back →
      let earlier := ((makeMovesStraying front).run ⟨{ duration }, []⟩).state
      let s := ((makeMovesStraying ms).run ⟨{ duration }, []⟩).state
      (straying (expire earlier.notifier.generation)).run s = ⟨(), s, []⟩) ∧
    ∀ cs : List Call,
      (ms.filter fun m => !m.isStray) = cs.flatMap (fun c => [.call c, .settle]) →
        let r := (makeMovesStraying ms).run ⟨{ duration }, []⟩
        let r' := (makeCalls cs).run { duration }
        r.trace = r'.trace ∧ r.state.notifier = r'.state := by
  have counted {front back : List Move} (parts : ms = front ++ back) :=
    (counted_first duration).moves front (by
      rw [parts, renewals_append] at few
      omega)
  refine ⟨?prefixes, ?outdated, ?calls⟩
  case prefixes =>
    rintro front ⟨back, parts⟩
    obtain ⟨events, same, -⟩ := counted parts.symm
    exact ⟨events, same⟩
  case outdated =>
    intro front back parts renewed earlier s
    have born := (counted parts).2.2.generation
    have now := (counted (List.append_nil ms).symm).2.2.generation
    have other : s.notifier.generation ≠ earlier.notifier.generation := by
      rw [born, now]
      refine ofNat_ne ?_ (by simpa using few)
      rw [parts, renewals_append]
      omega
    rw [run_straying, run_expire_of_ne other]
    simp
  case calls =>
    intro cs apart
    obtain ⟨events, same, -⟩ := counted (List.append_nil ms).symm
    rw [← run_makeMoves_filter, apart, ← prompt, run_makeMoves_prompt] at events same
    exact ⟨events, same⟩

/-- The timer of the first of two messages runs when it should have been stopped, and then what
hides the second one at the end of its time. -/
theorem makeMovesStraying_eq_of_two_messages :
    let first : List Move := [.call (.notify true "a")]
    let rest : List Move := [.settle, .call (.notify true "b"), .stray 0, .settle,
      .call (.advance 2500), .settle]
    let s := ((makeMovesStraying (first ++ rest)).run ⟨{ duration := 2500 }, []⟩).state
    let earlier := ((makeMovesStraying first).run ⟨{ duration := 2500 }, []⟩).state
    renewals (first ++ rest) < UInt64.size ∧
      ((makeMovesStraying (first ++ rest)).run ⟨{ duration := 2500 }, []⟩).trace =
        [.notification (some "a"), .notification (some "b"), .notification none] ∧
      (straying (expire earlier.notifier.generation)).run s = ⟨(), s, []⟩ := by
  intro first rest s earlier
  have few : renewals (first ++ rest) < UInt64.size := by decide
  have eq := makeMovesStraying_eq 2500 (first ++ rest) few
  exact ⟨few, (eq.1 _ List.prefix_rfl).1.trans (by decide), eq.2.1 first rest rfl (by decide)⟩

end Shortlink.Notifier

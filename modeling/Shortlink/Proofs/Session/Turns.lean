import Mathlib.Data.List.Induction
import Mathlib.Tactic.Lemma
import Shortlink.Session.Turn

/-!
# Runs of turns

What one more turn adds to a run, and the induction that follows: what holds where a session starts
and stays true from turn to turn is true behind every run.
-/

namespace Shortlink.Session

/-- A session as it starts: nothing is on the panel. -/
def opened (server : Server) (network : Network) (notifier : Notifier)
    (clipboardRefusal : Option String) : Session :=
  { server, network, notifier, clipboardRefusal }

/-- The step finds the session prepared, and the timer may run behind it. -/
lemma Turn.run_take (t : Turn) (s : Session) :
    t.take.run s =
      let r := t.step.act.run (t.prepare s)
      let last := (onNotifier Notifier.settle).run r.state
      ⟨r.value, last.state, r.trace ++ last.trace⟩ := by
  rw [take, Traced.run_bind, Traced.run_update, Traced.run_bind, Traced.run_bind, Traced.run_pure,
    List.append_nil, List.nil_append]

/-- The timer does nothing but hide a message. -/
lemma trace_settle (s : Session) :
    ∀ e ∈ ((onNotifier Notifier.settle).run s).trace, e = .shown (.notification none) := by
  intro e mem
  obtain ⟨u, shown, rfl⟩ := List.mem_map.1 mem
  rw [Notifier.settle, Traced.run_bind, Traced.run_read] at shown
  cases pending : s.notifier.pending with
  | none => simp [pending] at shown
  | some timer =>
    by_cases due : timer.deadlineAt s.notifier.now ≤ s.notifier.now
    · by_cases current : s.notifier.generation = timer.generation
      · simpa [pending, due, Notifier.expire, current] using shown
      · simp [pending, due, Notifier.expire, current] at shown
    · simp [pending, due] at shown

/-- The last turn of a run comes behind the others. -/
lemma run_takeTurns_concat (ts : List Turn) (t : Turn) (s : Session) :
    let r := (takeTurns ts).run s
    ((takeTurns (ts ++ [t])).run s).trace = r.trace ++ (t.take.run r.state).trace ∧
      ((takeTurns (ts ++ [t])).run s).state = (t.take.run r.state).state := by
  simp only [takeTurns, List.mapM_append, List.mapM_cons, List.mapM_nil, Traced.run_bind,
    Traced.run_pure, List.append_nil, and_self]

/-- What one turn preserves holds behind every run. -/
lemma takeTurns_induction {P : List Effect → Session → Prop} {s : Session} (start : P [] s)
    (turn : ∀ (t : Turn) trace s, P trace s →
      P (trace ++ (t.take.run s).trace) (t.take.run s).state)
    (ts : List Turn) : P ((takeTurns ts).run s).trace ((takeTurns ts).run s).state := by
  -- the last turn is taken off the end, since a turn depends on those in front of it
  induction ts using List.reverseRecOn with
  | nil => exact start
  | append_singleton ts t ih =>
    obtain ⟨trace, state⟩ := run_takeTurns_concat ts t s
    rw [trace, state]
    exact turn t _ _ ih

end Shortlink.Session

import Shortlink.Proofs.Notifier.Quiet
import Shortlink.Session

/-!
# The parts of a session

A session is put together from exchanges with the server, changes of the panel and notifications.
Each of them has its own part of the state and its own events, and a window on the other parts does
not see it.
-/

namespace Shortlink.Session

variable {w : Window Session Effect γ δ}

/-- Neither the notifications nor the state behind them are seen. -/
structure IgnoresNotifier (w : Window Session Effect γ δ) : Prop where
  part : ∀ n s, w.part { s with notifier := n } = w.part s
  event : ∀ message, w.event (.shown (.notification message)) = none

/-- A quiet change of the notifications is not seen. -/
lemma IgnoresNotifier.onNotifier (h : IgnoresNotifier w) {c : Notifier.Change α}
    (quiet : ∀ v : Window Notifier Update Unit δ, Notifier.IsQuiet v → v.Misses c) :
    w.Misses (onNotifier c) :=
  .focus h.part (quiet _ h.event)

/-- A message is not seen where notifications are not. -/
lemma IgnoresNotifier.notify (h : IgnoresNotifier w) (message : String) :
    w.Misses (notify message) :=
  h.onNotifier fun _ quiet => quiet.notify true message

/-- An exchange gives what the server is asked for. -/
lemma exchange_value (f : Server → Exchange α) (s : Session) :
    ((exchange f).run s).value = ((f s.server).run s.network).value := rfl

/-- Neither the requests nor the network are seen. -/
structure IgnoresNetwork (w : Window Session Effect γ δ) : Prop where
  part : ∀ n s, w.part { s with network := n } = w.part s
  event : ∀ q, w.event (.requested q) = none

/-- An exchange is not seen where the network is not. -/
lemma IgnoresNetwork.exchange (h : IgnoresNetwork w) (f : Server → Exchange α) :
    w.Misses (exchange f) := by
  apply Window.Misses.bind .read
  intro s
  apply Window.Misses.focus h.part
  intro n
  exact ⟨List.filterMap_eq_nil_iff.2 fun q _ => h.event q, rfl⟩

/-- Refreshing the count is not seen where neither the network nor the count is. -/
lemma IgnoresNetwork.refreshCount (h : IgnoresNetwork w)
    (count : ∀ n, w.event (.shown (.count n)) = none) : w.Misses refreshCount := by
  apply Window.Misses.bind (h.exchange _)
  intro n
  have presented : w.Misses (onPanel (Panel.presentCount n)) :=
    fun _ => ⟨List.filterMap_cons_none (count n), rfl⟩
  exact .bind presented fun _ => .pure n

end Shortlink.Session

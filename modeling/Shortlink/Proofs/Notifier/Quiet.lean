import Shortlink.Notifier
import Shortlink.Proofs.Window

/-!
# Nothing but notifications

Whatever is done to the notifications, only notifications come of it: through a window on other
updates nothing is seen of it.
-/

namespace Shortlink.Notifier

/-- No notification is seen. -/
def IsQuiet (w : Window Notifier Update Unit δ) : Prop :=
  ∀ message, w.event (.notification message) = none

variable {w : Window Notifier Update Unit δ}

/-- A message for some time is not seen. -/
lemma IsQuiet.notifyFor (quiet : IsQuiet w) (timed : Bool) (message : String) (ms : Nat) :
    w.Misses (notifyFor timed message ms) := by
  refine .bind (.update fun _ => rfl) fun _ => ?_
  refine .bind (.emit (quiet _)) fun _ => ?_
  refine .bind (.update fun _ => rfl) fun _ => ?_
  cases timed with
  | true => exact .update fun _ => rfl
  | false => exact .pure _

/-- A message for the usual time is not seen. -/
lemma IsQuiet.notify (quiet : IsQuiet w) (timed : Bool) (message : String) :
    w.Misses (notify timed message) :=
  .bind .read fun n => quiet.notifyFor timed message n.duration

/-- A dismissal is not seen. -/
lemma IsQuiet.dismiss (quiet : IsQuiet w) : w.Misses dismiss :=
  .bind (.update fun _ => rfl) fun _ => .emit (quiet _)

/-- A timer that comes to its end is not seen. -/
lemma IsQuiet.expire (quiet : IsQuiet w) (generation : UInt64) : w.Misses (expire generation) := by
  apply Window.Misses.bind .read
  intro n
  split
  · exact .bind (.update fun _ => rfl) fun _ => .emit (quiet _)
  · exact .pure _

/-- A turn of the runtime is not seen. -/
lemma IsQuiet.settle (quiet : IsQuiet w) : w.Misses settle := by
  apply Window.Misses.bind .read
  intro n
  split
  · split
    · exact quiet.expire _
    · exact .update fun _ => rfl
  · exact .pure _

/-- No call is seen. -/
lemma IsQuiet.call (quiet : IsQuiet w) (c : Call) : w.Misses (call c) := by
  have act : w.Misses c.act := by
    cases c with
    | notify timed message => exact quiet.notify timed message
    | notifyFor timed message ms => exact quiet.notifyFor timed message ms
    | dismiss => exact quiet.dismiss
    | advance ms => exact .update fun _ => rfl
  exact .bind act fun _ => quiet.settle

end Shortlink.Notifier

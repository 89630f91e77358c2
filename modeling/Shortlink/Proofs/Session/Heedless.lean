import Mathlib.Tactic.Lemma
import Shortlink.Session

/-!
# Heedless of notifications

Actions notify, but none of them looks at the notifications that there are. In a session with other
notifications an action gives the same result and shows the same, and it leaves the same session but
for the notifications.
-/

namespace Shortlink.Session

variable {α β : Type}

/-- The same session with other notifications. -/
def withNotifier (s : Session) (n : Notifier) : Session := { s with notifier := n }

/-- An action does the same to everything else, however the notifications are. -/
def Heedless (m : Action α) : Prop :=
  ∀ (s : Session) (n : Notifier), ∃ n',
    m.run (s.withNotifier n) = ⟨(m.run s).value, (m.run s).state.withNotifier n', (m.run s).trace⟩

namespace Heedless

/-- Nothing is done however the notifications are. -/
lemma pure (x : α) : Heedless (pure x) := fun _ n => ⟨n, rfl⟩

/-- Two actions heed no notifications if neither of them does. -/
lemma bind {m : Action α} {f : α → Action β} (h : Heedless m) (rest : ∀ x, Heedless (f x)) :
    Heedless (m >>= f) := by
  intro s n
  obtain ⟨n', first⟩ := h s n
  obtain ⟨n'', next⟩ := rest (m.run s).value (m.run s).state n'
  refine ⟨n'', ?_⟩
  rw [Traced.run_bind, first, next, Traced.run_bind]

/-- What is read of the session is not the notifications. -/
lemma read_bind {f : Session → Action α} (blind : ∀ s n, f (s.withNotifier n) = f s)
    (rest : ∀ s, Heedless (f s)) : Heedless (Traced.read >>= f) := by
  intro s n
  obtain ⟨n', next⟩ := rest s s n
  refine ⟨n', ?_⟩
  change (f (s.withNotifier n)).run (s.withNotifier n) = _
  rw [blind]
  exact next

/-- An event heeds no notifications. -/
lemma emit (e : Effect) : Heedless (Traced.emit e) := fun _ n => ⟨n, rfl⟩

/-- An exchange heeds no notifications. -/
lemma exchange (f : Server → Exchange α) : Heedless (exchange f) := fun _ n => ⟨n, rfl⟩

/-- A change of the panel heeds no notifications. -/
lemma onPanel (c : Panel.Change α) : Heedless (onPanel c) := fun _ n => ⟨n, rfl⟩

/-- A message is shown whatever is on view. -/
lemma notify (message : String) : Heedless (notify message) := fun _ _ => ⟨_, rfl⟩

/-- Refreshing the count heeds no notifications. -/
lemma refreshCount : Heedless refreshCount :=
  bind (exchange _) fun _ => bind (onPanel _) fun _ => pure _

/-- Shortening heeds no notifications. -/
lemma shorten (input : String) : Heedless (shorten input) := by
  apply bind (exchange _)
  rintro (e | link)
  · cases e with
    | validation m => exact bind (notify _) fun _ => pure _
    | _ => exact bind (notify _) fun _ => bind refreshCount fun _ => pure _
  · exact bind (notify _) fun _ => bind (onPanel _) fun _ => bind refreshCount fun _ => pure _

/-- Deleting heeds no notifications. -/
lemma delete (key : Key) : Heedless (delete key) :=
  bind (exchange _) fun _ => bind (onPanel _) fun _ => bind (notify _) fun _ =>
    bind refreshCount fun _ => pure _

/-- Deleting the link on the panel heeds no notifications. -/
lemma deleteCurrent : Heedless deleteCurrent := by
  apply read_bind (fun _ _ => rfl)
  intro s
  split
  · exact bind (delete _) fun _ => pure _
  · exact bind (notify _) fun _ => pure _

/-- Writing to the clipboard heeds no notifications. -/
lemma writeClipboard (text : String) : Heedless (writeClipboard text) := by
  apply read_bind (fun _ _ => rfl)
  intro s
  split
  · exact pure _
  · exact bind (emit _) fun _ => pure _

/-- Copying a text heeds no notifications. -/
lemma copy (text : String) : Heedless (copy text) := by
  apply bind (writeClipboard text)
  rintro (e | _)
  · exact bind (notify _) fun _ => pure _
  · exact bind (notify _) fun _ => pure _

/-- Copying the link on the panel heeds no notifications. -/
lemma copyCurrent : Heedless copyCurrent := by
  apply read_bind (fun _ _ => rfl)
  intro s
  split
  · exact copy _
  · exact bind (notify _) fun _ => pure _

/-- Looking a key up heeds no notifications. -/
lemma resolve (key : Key) : Heedless (resolve key) := by
  apply bind (exchange _)
  rintro (e | _ | url) <;> exact bind (notify _) fun _ => pure _

end Heedless

end Shortlink.Session

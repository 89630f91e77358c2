import Mathlib.Tactic.Lemma
import Shortlink.Traced

/-!
# Looking at computations

A computation that is put together from others is looked at through a window: a part of the state,
and some of the events. Most computations cannot be seen through a given window, and then what
becomes of the others in front of them and behind them does not depend on these.
-/

namespace Shortlink

/-- What is looked at: a part of the state, and what an event looks like if it is seen. -/
structure Window (σ ε γ δ : Type) where
  part : σ → γ
  event : ε → Option δ

namespace Window

variable {σ τ ε ε' γ δ α β : Type} (w : Window σ ε γ δ)

/-- A run from a state looks like these events, and the part of the state is this behind it. -/
def Shows (m : Traced σ ε α) (s : σ) (ds : List δ) (c : γ) : Prop :=
  (m.run s).trace.filterMap w.event = ds ∧ w.part (m.run s).state = c

/-- No run is seen: there is no event, and the part of the state stays. -/
def Misses (m : Traced σ ε α) : Prop :=
  ∀ s, w.Shows m s [] (w.part s)

variable {w}

/-- Two actions are seen one behind the other. -/
lemma Shows.bind {m : Traced σ ε α} {f : α → Traced σ ε β} {s : σ} {ds ds' : List δ} {c c' : γ}
    (first : w.Shows m s ds c) (rest : w.Shows (f (m.run s).value) (m.run s).state ds' c') :
    w.Shows (m >>= f) s (ds ++ ds') c' := by
  constructor
  · rw [Traced.run_bind, List.filterMap_append, first.1, rest.1]
  · rw [Traced.run_bind]
    exact rest.2

/-- Nothing is seen where nothing is done. -/
lemma Misses.pure (x : α) : w.Misses (pure x : Traced σ ε α) :=
  fun _ => ⟨rfl, rfl⟩

/-- Looking at the state is not seen. -/
lemma Misses.read : w.Misses (Traced.read : Traced σ ε σ) :=
  fun _ => ⟨rfl, rfl⟩

/-- An event that is not looked at is not seen. -/
lemma Misses.emit {e : ε} (h : w.event e = none) : w.Misses (Traced.emit e) :=
  fun _ => ⟨List.filterMap_cons_none h, rfl⟩

/-- A change of another part of the state is not seen. -/
lemma Misses.update {f : σ → σ} (h : ∀ s, w.part (f s) = w.part s) :
    w.Misses (Traced.update f : Traced σ ε Unit) :=
  fun s => ⟨rfl, h s⟩

/-- What happens in another part of the state is not seen, unless by its events. -/
lemma Misses.focus {get : σ → τ} {put : τ → σ → σ} {wrap : ε' → ε} {m : Traced τ ε' α}
    (apart : ∀ t s, w.part (put t s) = w.part s)
    (h : Misses ⟨fun _ => (), w.event ∘ wrap⟩ m) : w.Misses (Traced.focus get put wrap m) := by
  intro s
  constructor
  · rw [Traced.run_focus, List.filterMap_map]
    exact (h _).1
  · exact apart _ _

/-- What is not seen in front changes nothing of what is seen behind it. -/
lemma Misses.bind_shows {m : Traced σ ε α} {f : α → Traced σ ε β} {s : σ} {ds : List δ} {c : γ}
    (first : w.Misses m) (rest : w.Shows (f (m.run s).value) (m.run s).state ds c) :
    w.Shows (m >>= f) s ds c :=
  (first s).bind rest

/-- What is not seen behind changes nothing of what is seen in front of it. -/
lemma Shows.bind_misses {m : Traced σ ε α} {f : α → Traced σ ε β} {s : σ} {ds : List δ} {c : γ}
    (first : w.Shows m s ds c) (rest : w.Misses (f (m.run s).value)) :
    w.Shows (m >>= f) s ds c := by
  have after := rest (m.run s).state
  rw [first.2] at after
  have all := first.bind after
  rwa [List.append_nil] at all

/-- Two actions are not seen if neither of them is. -/
lemma Misses.bind {m : Traced σ ε α} {f : α → Traced σ ε β} (first : w.Misses m)
    (rest : ∀ x, w.Misses (f x)) : w.Misses (m >>= f) :=
  fun s => (first s).bind_misses (rest _)

end Window

end Shortlink

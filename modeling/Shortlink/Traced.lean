/-!
# Traced computations

A computation on a state that leaves a trace: the events it causes, in their order. `Traced` is a
monad whose traces are appended; `focus` runs a computation on a part of a larger state.
-/

namespace Shortlink

/-- What a computation ends with. -/
structure Traced.Result (σ ε α : Type) where
  value : α
  state : σ
  trace : List ε

/-- A computation on a state `σ` that causes events `ε` and gives an `α`. -/
def Traced (σ ε α : Type) : Type := σ → Traced.Result σ ε α

namespace Traced

/-- Carries out from a state. -/
def run (m : Traced σ ε α) (s : σ) : Result σ ε α := m s

instance : Monad (Traced σ ε) where
  pure x := fun s => ⟨x, s, []⟩
  bind m f := fun s =>
    let r := m.run s
    let r' := (f r.value).run r.state
    ⟨r'.value, r'.state, r.trace ++ r'.trace⟩

/-- Looks at the state. -/
def read : Traced σ ε σ := fun s => ⟨s, s, []⟩

/-- Changes the state. -/
def update (f : σ → σ) : Traced σ ε Unit := fun s => ⟨(), f s, []⟩

/-- Tells of an event. -/
def emit (e : ε) : Traced σ ε Unit := fun s => ⟨(), s, [e]⟩

/-- Runs a computation on a part of a state, its events being events of the whole. -/
def focus (get : τ → σ) (put : σ → τ → τ) (wrap : ε → ε') (m : Traced σ ε α) : Traced τ ε' α :=
  fun t =>
    let r := m.run (get t)
    ⟨r.value, put r.state t, r.trace.map wrap⟩

/-- Nothing is done but to give the value. -/
@[simp] theorem run_pure (x : α) (s : σ) : (pure x : Traced σ ε α).run s = ⟨x, s, []⟩ := rfl

/-- The second part goes on in the state behind the first, and its events come behind. -/
@[simp] theorem run_bind (m : Traced σ ε α) (f : α → Traced σ ε β) (s : σ) :
    (m >>= f).run s =
      ⟨((f (m.run s).value).run (m.run s).state).value,
        ((f (m.run s).value).run (m.run s).state).state,
        (m.run s).trace ++ ((f (m.run s).value).run (m.run s).state).trace⟩ := rfl

/-- The state is given and stays. -/
@[simp] theorem run_read (s : σ) : (read : Traced σ ε σ).run s = ⟨s, s, []⟩ := rfl

/-- The state is changed, and nothing is seen. -/
@[simp] theorem run_update (f : σ → σ) (s : σ) :
    (update f : Traced σ ε Unit).run s = ⟨(), f s, []⟩ := rfl

/-- The event is seen, and the state stays. -/
@[simp] theorem run_emit (e : ε) (s : σ) : (emit e : Traced σ ε Unit).run s = ⟨(), s, [e]⟩ := rfl

/-- A part of the state is changed as on its own. -/
@[simp] theorem run_focus (get : τ → σ) (put : σ → τ → τ) (wrap : ε → ε') (m : Traced σ ε α)
    (t : τ) :
    (focus get put wrap m).run t =
      ⟨(m.run (get t)).value, put (m.run (get t)).state t, (m.run (get t)).trace.map wrap⟩ := rfl

instance : LawfulMonad (Traced σ ε) := LawfulMonad.mk' (Traced σ ε)
  (fun x => by
    funext s
    change (⟨_, _, (x s).trace ++ []⟩ : Result _ _ _) = x s
    rw [List.append_nil]
    rfl)
  (fun x f => rfl)
  (fun x f g => by
    funext s
    change (⟨_, _, (_ ++ _) ++ _⟩ : Result _ _ _) = ⟨_, _, _ ++ (_ ++ _)⟩
    rw [List.append_assoc]
    rfl)

end Traced

end Shortlink

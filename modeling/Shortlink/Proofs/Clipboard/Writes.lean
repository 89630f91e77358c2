import Mathlib.Tactic.Lemma
import Shortlink.Clipboard

/-!
# Texts for the clipboard

What becomes of texts that reach the worker one after the other. Attempts to open the clipboard are
made until one is not refused, and this one decides about all texts from there on: with it the
worker has a handle for good, or is lost. So each text comes to what its number makes of the two
scripts, and nothing else about the texts in front of it matters.
-/

namespace Shortlink

/-- Whether an attempt to open the clipboard is refused. -/
def Opening.isRefused : Opening → Bool
  | .refused _ => true
  | .opened | .crashed => false

namespace ClipboardWorker

/-- How many attempts are refused in front of the first that is not. -/
def refusals (openings : List Opening) : Nat := (openings.takeWhile Opening.isRefused).length

/-- What the attempt came to that decides about the text of a number, counted from 0: its own
attempt, or the first that was not refused. -/
def decision (openings : List Opening) (i : Nat) : Opening :=
  openings.getD (min i (refusals openings)) .opened

/-- What a text comes to that the clipboard is given. -/
def taken : Option String → Except Failure Unit
  | none => .ok ()
  | some reason => .error (.clipboard reason)

/-- The answer to the text of a number. -/
def answerAt (openings : List Opening) (settings : List (Option String)) (i : Nat) :
    Except Failure Unit :=
  match decision openings i with
  | .opened => taken (settings.getD (i - refusals openings) none)
  | .refused reason => .error (.clipboard reason)
  | .crashed => .error stopped

/-- What is done to the clipboard for the text of a number. -/
def callsAt (openings : List Opening) (i : Nat) (text : String) : List ClipboardCall :=
  (if i ≤ refusals openings then [.opening] else []) ++
    (if decision openings i = .opened then [.setting text] else [])

/-- The worker that the text of a number meets. -/
def stateAt (openings : List Opening) (settings : List (Option String)) (i : Nat) :
    ClipboardWorker where
  holdsHandle := refusals openings < i ∧ decision openings i = .opened
  lost := refusals openings < i ∧ decision openings i = .crashed
  openings := openings.drop (min i (refusals openings + 1))
  settings :=
    if decision openings i = .opened then settings.drop (i - refusals openings) else settings

/-- The worker behind texts. -/
def behind (w : ClipboardWorker) (texts : List String) : ClipboardWorker :=
  texts.foldl (fun w text => ((write text).run w).state) w

/-! ## One text -/

section Write

variable {w : ClipboardWorker} (text : String)

/-- A text is set as the clipboard takes it, and its answer is used up. -/
lemma run_setText (w : ClipboardWorker) :
    (setText text).run w =
      ⟨taken (w.settings.headD none), { w with settings := w.settings.drop 1 },
        [.setting text]⟩ := by
  rw [setText, Traced.run_bind, Traced.run_emit, Traced.run_bind, Traced.run_read,
    Traced.run_bind, Traced.run_update]
  cases w.settings.headD none <;> rfl

/-- A worker that is lost does nothing. -/
lemma run_write_of_lost (lost : w.lost = true) :
    (write text).run w = ⟨.error stopped, w, []⟩ := by
  rw [write, Traced.run_bind, Traced.run_read, if_pos lost]
  rfl

/-- A worker with a handle sets the text with it. -/
lemma run_write_of_held (here : w.lost = false) (held : w.holdsHandle = true) :
    (write text).run w = (setText text).run w := by
  rw [write, Traced.run_bind, Traced.run_read, if_neg (by simp [here]), if_pos held]
  rfl

/-- Without a handle the first thing is an attempt, and it decides what follows. -/
lemma run_write_of_closed (here : w.lost = false) (without : w.holdsHandle = false) :
    let w' := { w with openings := w.openings.drop 1 }
    (write text).run w =
      match w.openings.headD .opened with
      | .opened =>
        let r := (setText text).run { w' with holdsHandle := true }
        ⟨r.value, r.state, .opening :: r.trace⟩
      | .refused reason => ⟨.error (.clipboard reason), w', [.opening]⟩
      | .crashed => ⟨.error stopped, { w' with lost := true }, [.opening]⟩ := by
  intro w'
  rw [write, Traced.run_bind, Traced.run_read, if_neg (by simp [here]),
    if_neg (by simp [without]), Traced.run_bind, openHandle, Traced.run_bind, Traced.run_emit,
    Traced.run_bind, Traced.run_read, Traced.run_bind, Traced.run_update]
  cases w.openings.headD .opened <;> rfl

end Write

/-! ## The text of a number -/

section Scripts

variable {openings : List Opening} (settings : List (Option String)) {i : Nat}

/-- The attempts up to the first that is not refused are refused, and this one is not. -/
lemma getD_isRefused (openings : List Opening) (i : Nat) (h : i ≤ refusals openings) :
    (openings.getD i .opened).isRefused = decide (i < refusals openings) := by
  induction openings generalizing i with
  | nil => rfl
  | cons o rest ih =>
    cases o with
    | refused reason =>
      have counts : refusals (.refused reason :: rest) = refusals rest + 1 := rfl
      cases i with
      | zero => simp [counts, Opening.isRefused]
      | succ i =>
        rw [counts] at h ⊢
        simpa using ih i (Nat.le_of_succ_le_succ h)
    | opened | crashed =>
      obtain rfl : i = 0 := Nat.le_zero.1 h
      rfl

/-- In front of the first attempt that is not refused each text meets a refusal. -/
lemma decision_of_lt (h : i < refusals openings) :
    ∃ reason, decision openings i = .refused reason := by
  have refused := getD_isRefused openings i (Nat.le_of_lt h)
  rw [decide_eq_true h] at refused
  rw [decision, Nat.min_eq_left (Nat.le_of_lt h)]
  cases e : openings.getD i .opened with
  | refused reason => exact ⟨reason, rfl⟩
  | opened | crashed =>
    rw [e] at refused
    cases refused

/-- From the first attempt on that is not refused the clipboard is open or the worker lost. -/
lemma decision_of_le (h : refusals openings ≤ i) :
    decision openings i = .opened ∨ decision openings i = .crashed := by
  have kept := getD_isRefused openings _ (Nat.le_refl (refusals openings))
  rw [decision, Nat.min_eq_right h]
  cases e : openings.getD (refusals openings) .opened with
  | opened => exact .inl rfl
  | crashed => exact .inr rfl
  | refused reason =>
    rw [e] at kept
    simp [Opening.isRefused] at kept

/-- From the first attempt that is not refused on it is this one that decides. -/
lemma decision_succ (h : refusals openings ≤ i) :
    decision openings (i + 1) = decision openings i := by
  rw [decision, decision, Nat.min_eq_right h, Nat.min_eq_right (Nat.le_succ_of_le h)]

/-- The next attempt decides about its text, up to the first that is not refused. -/
lemma headD_drop_decision (h : i ≤ refusals openings) :
    (openings.drop i).headD .opened = decision openings i := by
  rw [decision, Nat.min_eq_left h, List.headD_eq_head?_getD, List.head?_drop]
  rfl

/-- Up to the first attempt that is not refused there is no handle. -/
lemma stateAt_of_le (h : i ≤ refusals openings) :
    stateAt openings settings i = { openings := openings.drop i, settings } := by
  have early : ¬ refusals openings < i := Nat.not_lt.2 h
  have none : i - refusals openings = 0 := Nat.sub_eq_zero_of_le h
  simp [stateAt, early, none, Nat.min_eq_left (Nat.le_succ_of_le h)]

/-- Behind an attempt that succeeds there is a handle, and no more attempts. -/
lemma stateAt_of_opened (h : refusals openings < i) (opened : decision openings i = .opened) :
    stateAt openings settings i =
      { holdsHandle := true
        openings := openings.drop (refusals openings + 1)
        settings := settings.drop (i - refusals openings) } := by
  rw [stateAt, Nat.min_eq_right (Nat.succ_le_of_lt h)]
  simp [h, opened]

/-- Behind an attempt that crashes the worker is lost. -/
lemma stateAt_of_crashed (h : refusals openings < i) (crashed : decision openings i = .crashed) :
    stateAt openings settings i =
      { lost := true, openings := openings.drop (refusals openings + 1), settings } := by
  rw [stateAt, Nat.min_eq_right (Nat.succ_le_of_lt h)]
  simp [h, crashed]

/-- What becomes of a text is settled by its number. -/
lemma run_write_stateAt (openings : List Opening) (settings : List (Option String)) (i : Nat)
    (text : String) :
    (write text).run (stateAt openings settings i) =
      ⟨answerAt openings settings i, stateAt openings settings (i + 1),
        callsAt openings i text⟩ := by
  rcases Nat.lt_trichotomy i (refusals openings) with early | rfl | late
  · -- the attempt made for this text is refused
    obtain ⟨reason, refused⟩ := decision_of_lt early
    rw [stateAt_of_le settings (Nat.le_of_lt early), stateAt_of_le settings early,
      run_write_of_closed text rfl rfl]
    simp only [headD_drop_decision (Nat.le_of_lt early), refused]
    simp [refused, answerAt, callsAt, Nat.le_of_lt early]
  · -- the attempt made for this text decides about all the others too
    have here := Nat.le_refl (refusals openings)
    rw [stateAt_of_le settings here, run_write_of_closed text rfl rfl]
    simp only [headD_drop_decision here]
    rcases decision_of_le here with opened | crashed
    · rw [stateAt_of_opened settings (Nat.lt_succ_self _) ((decision_succ here).trans opened)]
      simp [opened, run_setText, answerAt, callsAt, List.head?_eq_getElem?]
    · rw [stateAt_of_crashed settings (Nat.lt_succ_self _) ((decision_succ here).trans crashed)]
      simp [crashed, answerAt, callsAt]
  · -- no attempt is made any more
    have next := decision_succ (Nat.le_of_lt late)
    rcases decision_of_le (Nat.le_of_lt late) with opened | crashed
    · rw [stateAt_of_opened settings late opened,
        stateAt_of_opened settings (Nat.lt_succ_of_lt late) (next.trans opened),
        run_write_of_held text rfl rfl, run_setText]
      simp [opened, answerAt, callsAt, Nat.not_le.2 late, Nat.sub_add_comm (Nat.le_of_lt late)]
    · rw [stateAt_of_crashed settings late crashed,
        stateAt_of_crashed settings (Nat.lt_succ_of_lt late) (next.trans crashed),
        run_write_of_lost text rfl]
      simp [crashed, answerAt, callsAt, Nat.not_le.2 late]

/-- The worker behind texts is settled by how many there are. -/
lemma behind_stateAt (openings : List Opening) (settings : List (Option String)) (i : Nat)
    (texts : List String) :
    (stateAt openings settings i).behind texts = stateAt openings settings (i + texts.length) := by
  induction texts generalizing i with
  | nil => rfl
  | cons text texts ih =>
    rw [behind, List.foldl_cons, run_write_stateAt, ← behind, ih, List.length_cons,
      Nat.add_right_comm, Nat.add_assoc]

/-! ## Behind the loss of the worker -/

variable {settings}

/-- A worker is lost exactly behind an attempt that crashes. -/
lemma lost_stateAt_iff :
    (stateAt openings settings i).lost = true ↔
      refusals openings < i ∧ decision openings i = .crashed := by
  simp [stateAt]

/-- A worker that is lost stays lost. -/
lemma lost_stateAt_succ (h : (stateAt openings settings i).lost = true) :
    (stateAt openings settings (i + 1)).lost = true := by
  obtain ⟨late, crashed⟩ := lost_stateAt_iff.1 h
  have next := (decision_succ (Nat.le_of_lt late)).trans crashed
  exact lost_stateAt_iff.2 ⟨Nat.lt_succ_of_lt late, next⟩

/-- The attempt that crashes decides about all texts from then on. -/
lemma decision_of_lost {n : Nat} (h : (stateAt openings settings n).lost = true)
    (le : n ≤ i + 1) : decision openings i = .crashed := by
  obtain ⟨late, crashed⟩ := lost_stateAt_iff.1 h
  rw [decision, Nat.min_eq_right (Nat.le_of_lt late)] at crashed
  rw [decision, Nat.min_eq_right (by omega), crashed]

/-- Where the worker is lost, it has not answered the text in front, and no text behind it. -/
lemma answerAt_of_lost {n : Nat} (h : (stateAt openings settings n).lost = true) (le : n ≤ i + 1) :
    answerAt openings settings i = .error stopped := by
  rw [answerAt, decision_of_lost h le]

/-- Nothing is done for a text that meets a lost worker. -/
lemma callsAt_of_lost {n : Nat} (h : (stateAt openings settings n).lost = true) (le : n ≤ i)
    (text : String) : callsAt openings i text = [] := by
  have late : ¬ i ≤ refusals openings :=
    Nat.not_le.2 (Nat.lt_of_lt_of_le (lost_stateAt_iff.1 h).1 le)
  simp [callsAt, decision_of_lost h (Nat.le_succ_of_le le), late]

end Scripts

end ClipboardWorker

end Shortlink

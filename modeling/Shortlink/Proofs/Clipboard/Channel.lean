import Mathlib.Logic.Relation
import Shortlink.Proofs.Clipboard.Writes

/-!
# Callers of the clipboard

The worker has a thread of its own. A call puts its text into the channel to this thread, together
with the sending end of a channel for the answer, and waits at the other end. When the worker is
lost the thread unwinds: it drops what it was working on, then the channel is closed, and at last
the requests that are left in it are dropped; a call whose sending end is dropped finds its channel
broken. Calls may be made at any time and by any number of callers. However the parties take turns,
the calls are answered as if their texts had been written one after the other in the order in which
the calls were made.
-/

namespace Shortlink

/-- A text on its way to the worker, and the number of the call that waits for the answer. -/
abbrev CopyRequest := String × Nat

/-- Where the answer to a call is. -/
inductive Receipt
  | awaited
  /-- It lies in the channel of the call. -/
  | sent (answer : Except Failure Unit)
  /-- The sending end was dropped without an answer. -/
  | abandoned
  /-- The call has returned with it. -/
  | received (answer : Except Failure Unit)

/-- Whether a call still waits. -/
def Receipt.isOpen : Receipt → Bool
  | .received _ => false
  | .awaited | .sent _ | .abandoned => true

/-- What the thread of the worker is at. -/
inductive WorkerThread
  | idle
  | serving (r : CopyRequest)
  | answering (call : Nat) (answer : Except Failure Unit)
  /-- The worker is lost, and the channel to it still takes requests. -/
  | unwinding
  | gone

/-- The call that the thread is at. -/
def WorkerThread.call? : WorkerThread → Option Nat
  | .serving r => some r.2
  | .answering call _ => some call
  | .idle | .unwinding | .gone => none

/-- How much the thread has still to do for it, next to the receipt of the call. -/
def WorkerThread.work : WorkerThread → Nat
  | .serving _ => 3
  | .answering _ _ => 2
  | .unwinding => 1
  | .idle | .gone => 0

/-- The worker, the channels to it and from it, and the calls in the order in which they were made:
the text and the receipt of each. The log has what was done to the clipboard, with the number of the
call for which it was done. -/
structure ClipboardService where
  worker : ClipboardWorker
  thread : WorkerThread := .idle
  requests : List CopyRequest := []
  texts : List String := []
  receipts : List Receipt := []
  log : List (Nat × ClipboardCall) := []

namespace ClipboardService

open ClipboardWorker

/-- The service before the first call. -/
def start (openings : List Opening) (settings : List (Option String)) : ClipboardService :=
  { worker := { openings, settings } }

/-- A call is made. -/
inductive Asks : ClipboardService → ClipboardService → Prop
  | heard {s} (text : String) :
    s.thread ≠ .gone →
    Asks s { s with
      requests := s.requests ++ [(text, s.texts.length)]
      texts := s.texts ++ [text]
      receipts := s.receipts ++ [.awaited] }
  /-- The channel is closed. -/
  | unheard {s} (text : String) :
    s.thread = .gone →
    Asks s { s with
      texts := s.texts ++ [text]
      receipts := s.receipts ++ [.received (.error stopped)] }

/-- Something becomes of the calls that were made. -/
inductive Works : ClipboardService → ClipboardService → Prop
  | take {s r rest} :
    s.thread = .idle →
    s.requests = r :: rest →
    Works s { s with thread := .serving r, requests := rest }
  | serve {s text call} :
    s.thread = .serving (text, call) →
    ((write text).run s.worker).state.lost = false →
    Works s { s with
      worker := ((write text).run s.worker).state
      thread := .answering call ((write text).run s.worker).value
      log := s.log ++ ((write text).run s.worker).trace.map (call, ·) }
  | crash {s text call} :
    s.thread = .serving (text, call) →
    ((write text).run s.worker).state.lost = true →
    Works s { s with
      worker := ((write text).run s.worker).state
      thread := .unwinding
      receipts := s.receipts.set call .abandoned
      log := s.log ++ ((write text).run s.worker).trace.map (call, ·) }
  | answer {s call answer} :
    s.thread = .answering call answer →
    Works s { s with thread := .idle, receipts := s.receipts.set call (.sent answer) }
  | close {s} :
    s.thread = .unwinding →
    Works s { s with thread := .gone }
  | discard {s text call rest} :
    s.thread = .gone →
    s.requests = (text, call) :: rest →
    Works s { s with requests := rest, receipts := s.receipts.set call .abandoned }
  | receive {s call answer} :
    s.receipts[call]? = some (.sent answer) →
    Works s { s with receipts := s.receipts.set call (.received answer) }
  | giveUp {s call} :
    s.receipts[call]? = some .abandoned →
    Works s { s with receipts := s.receipts.set call (.received (.error stopped)) }

/-- A call is made, or something becomes of one. -/
def Step (s s' : ClipboardService) : Prop := Asks s s' ∨ Works s s'

/-- However the work goes on while no more calls are made, it comes to such a state. -/
inductive ComesTo (P : ClipboardService → Prop) : ClipboardService → Prop
  | now {s} :
    P s →
    ComesTo P s
  | later {s} :
    (∃ s', Works s s') →
    (∀ s', Works s s' → ComesTo P s') →
    ComesTo P s

variable {s s' : ClipboardService}

/-! ## Every call returns -/

/-- The calls whose requests are at the thread or on the way to it. -/
def inFlight (s : ClipboardService) : List Nat := s.thread.call?.toList ++ s.requests.map (·.2)

/-- No call waits for nothing. -/
def Attended (s : ClipboardService) : Prop :=
  ∀ call, s.receipts[call]? = some .awaited → call ∈ s.inFlight

/-- Work leaves the calls alone, or it changes the receipt of one of them; a request is not taken
out of flight but with the receipt of its call. -/
lemma Works.inFlight (works : Works s s') :
    (s'.receipts = s.receipts ∧ s'.inFlight = s.inFlight) ∨
      ∃ call receipt, receipt ≠ .awaited ∧ s'.receipts = s.receipts.set call receipt ∧
        (s.inFlight = s'.inFlight ∨ s.inFlight = call :: s'.inFlight) := by
  cases works with
  | take idle next =>
    refine .inl ⟨rfl, ?_⟩
    simp [ClipboardService.inFlight, WorkerThread.call?, idle, next]
  | serve serving _ =>
    refine .inl ⟨rfl, ?_⟩
    simp [ClipboardService.inFlight, WorkerThread.call?, serving]
  | crash serving _ =>
    refine .inr ⟨_, _, by simp, rfl, .inr ?_⟩
    simp [ClipboardService.inFlight, WorkerThread.call?, serving]
  | answer answering =>
    refine .inr ⟨_, _, by simp, rfl, .inr ?_⟩
    simp [ClipboardService.inFlight, WorkerThread.call?, answering]
  | close unwinding =>
    refine .inl ⟨rfl, ?_⟩
    simp [ClipboardService.inFlight, WorkerThread.call?, unwinding]
  | discard gone next =>
    refine .inr ⟨_, _, by simp, rfl, .inr ?_⟩
    simp [ClipboardService.inFlight, WorkerThread.call?, gone, next]
  | receive _ => exact .inr ⟨_, _, by simp, rfl, .inl rfl⟩
  | giveUp _ => exact .inr ⟨_, _, by simp, rfl, .inl rfl⟩

/-- While the thread works no call comes to wait for nothing. -/
lemma Attended.works (h : s.Attended) (works : Works s s') : s'.Attended := by
  intro i awaited
  rcases works.inFlight with ⟨receipts, inFlight⟩ | ⟨call, receipt, other, receipts, inFlight⟩
  · rw [inFlight]
    exact h i (receipts ▸ awaited)
  · rw [receipts, List.getElem?_set] at awaited
    by_cases same : call = i
    · simp [same, other] at awaited
    · rw [if_neg same] at awaited
      have before := h i awaited
      rcases inFlight with inFlight | inFlight
      · exact inFlight ▸ before
      · rw [inFlight, List.mem_cons] at before
        exact before.resolve_left (Ne.symm same)

/-- A new call does not wait for nothing. -/
lemma Attended.asks (h : s.Attended) (length : s.receipts.length = s.texts.length)
    (asks : Asks s s') : s'.Attended := by
  intro i awaited
  cases asks with
  | heard text open' =>
    rw [List.getElem?_append] at awaited
    split at awaited
    · have before := h i awaited
      simp only [ClipboardService.inFlight, List.map_append, List.mem_append] at before ⊢
      exact before.elim .inl fun queued => .inr (.inl queued)
    · next early =>
      cases last : i - s.receipts.length with
      | zero =>
        have number : i = s.texts.length := by omega
        simp [ClipboardService.inFlight, number]
      | succ k => simp [last] at awaited
  | unheard text gone =>
    rw [List.getElem?_append] at awaited
    split at awaited
    · exact h i awaited
    · cases last : i - s.receipts.length with
      | zero => simp [last] at awaited
      | succ k => simp [last] at awaited

/-- What is still to be done for the calls that were made. -/
def work (s : ClipboardService) : Nat :=
  4 * s.requests.length + s.thread.work + s.receipts.countP Receipt.isOpen

/-- A receipt that is changed is one more that is open at most. -/
lemma countP_set_le (receipts : List Receipt) (call : Nat) (receipt : Receipt) :
    (receipts.set call receipt).countP Receipt.isOpen ≤ receipts.countP Receipt.isOpen + 1 := by
  by_cases h : call < receipts.length
  · rw [List.countP_set h]
    split <;> split <;> omega
  · rw [List.set_eq_of_length_le (Nat.le_of_not_lt h)]
    omega

/-- An open receipt that is received is one less that is open. -/
lemma countP_set_received {receipts : List Receipt} {call : Nat} {receipt : Receipt}
    (h : receipts[call]? = some receipt) (isOpen : receipt.isOpen = true)
    (answer : Except Failure Unit) :
    (receipts.set call (.received answer)).countP Receipt.isOpen <
      receipts.countP Receipt.isOpen := by
  obtain ⟨lt, rfl⟩ := List.getElem?_eq_some_iff.1 h
  have some : 0 < receipts.countP Receipt.isOpen :=
    List.countP_pos_iff.2 ⟨_, List.getElem_mem lt, isOpen⟩
  rw [List.countP_set lt, if_pos isOpen]
  simp only [Receipt.isOpen, Bool.false_eq_true, if_false]
  omega

/-- Each step of the thread leaves less to be done. -/
lemma Works.work_lt (works : Works s s') : s'.work < s.work := by
  cases works with
  | take idle next =>
    simp only [ClipboardService.work, idle, next, WorkerThread.work, List.length_cons]
    omega
  | serve serving _ =>
    simp only [ClipboardService.work, serving, WorkerThread.work]
    omega
  | @crash _ call serving _ =>
    have := countP_set_le s.receipts call .abandoned
    simp only [ClipboardService.work, serving, WorkerThread.work]
    omega
  | @answer call a answering =>
    have := countP_set_le s.receipts call (.sent a)
    simp only [ClipboardService.work, answering, WorkerThread.work]
    omega
  | close unwinding =>
    simp only [ClipboardService.work, unwinding, WorkerThread.work]
    omega
  | @discard _ call _ gone next =>
    have := countP_set_le s.receipts call .abandoned
    simp only [ClipboardService.work, next, List.length_cons]
    omega
  | receive h => exact Nat.add_lt_add_left (countP_set_received h rfl _) _
  | giveUp h => exact Nat.add_lt_add_left (countP_set_received h rfl _) _

/-- As long as a call has not returned there is something to be done. -/
lemma Attended.works_of_open (h : s.Attended) {call : Nat} {receipt : Receipt}
    (here : s.receipts[call]? = some receipt) (isOpen : receipt.isOpen = true) :
    ∃ s', Works s s' := by
  cases receipt with
  | received _ => cases isOpen
  | sent _ => exact ⟨_, .receive here⟩
  | abandoned => exact ⟨_, .giveUp here⟩
  | awaited =>
    have flying := h call here
    cases thread : s.thread with
    | serving r =>
      cases lost : ((write r.1).run s.worker).state.lost with
      | false => exact ⟨_, .serve thread lost⟩
      | true => exact ⟨_, .crash thread lost⟩
    | answering _ _ => exact ⟨_, .answer thread⟩
    | unwinding => exact ⟨_, .close thread⟩
    | idle =>
      cases next : s.requests with
      | nil => simp [inFlight, WorkerThread.call?, thread, next] at flying
      | cons r rest => exact ⟨_, .take thread next⟩
    | gone =>
      cases next : s.requests with
      | nil => simp [inFlight, WorkerThread.call?, thread, next] at flying
      | cons r rest => exact ⟨_, .discard thread next⟩

/-- Every call returns. -/
lemma Attended.comesTo (h : s.Attended) :
    ComesTo (fun s' => ∀ receipt ∈ s'.receipts, ∃ answer, receipt = .received answer) s := by
  induction size : s.work using Nat.strongRecOn generalizing s with
  | ind n ih =>
    by_cases waits : ∃ receipt ∈ s.receipts, receipt.isOpen = true
    · obtain ⟨receipt, mem, isOpen⟩ := waits
      obtain ⟨call, here⟩ := List.getElem?_of_mem mem
      refine .later (h.works_of_open here isOpen) fun s' works => ?_
      exact ih _ (size ▸ works.work_lt) (h.works works) rfl
    · refine .now fun receipt mem => ?_
      cases receipt with
      | received answer => exact ⟨answer, rfl⟩
      | _ => exact absurd ⟨_, mem, rfl⟩ waits

end ClipboardService

end Shortlink

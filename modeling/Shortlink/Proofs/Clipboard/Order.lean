import Shortlink.Proofs.Clipboard.Channel

/-!
# The order of the calls

The worker carries the requests out in the order in which the calls were made, each once, and each
call returns with the answer to its own text. What is done to the clipboard and what the calls
return with is therefore settled by their numbers.
-/

namespace Shortlink.ClipboardService

open ClipboardWorker

/-- The requests of the calls from a number on. -/
def requestsFrom (texts : List String) (n : Nat) : List CopyRequest := texts.zipIdx.drop n

/-- What is done to the clipboard for the calls in front of a number. -/
def callsUpTo (openings : List Opening) (texts : List String) (n : Nat) :
    List (Nat × ClipboardCall) :=
  (texts.zipIdx.take n).flatMap fun (text, i) => (callsAt openings i text).map (i, ·)

/-- The texts that the clipboard is given. -/
def textsSet (log : List (Nat × ClipboardCall)) : List String :=
  log.filterMap fun
    | (_, .setting text) => some text
    | (_, .opening) => none

section Numbers

variable {texts : List String} {n : Nat}

/-- A new request comes behind the others. -/
lemma requestsFrom_append (h : n ≤ texts.length) (text : String) :
    requestsFrom (texts ++ [text]) n = requestsFrom texts n ++ [(text, texts.length)] := by
  rw [requestsFrom, List.zipIdx_append, List.drop_append_of_le_length (by simpa using h),
    Nat.zero_add]
  rfl

/-- A new text changes nothing in front of it. -/
lemma callsUpTo_append (openings : List Opening) (h : n ≤ texts.length) (text : String) :
    callsUpTo openings (texts ++ [text]) n = callsUpTo openings texts n := by
  rw [callsUpTo, List.zipIdx_append, List.take_append_of_le_length (by simpa using h), callsUpTo]

/-- What is done for a text comes behind what is done for those in front of it. -/
lemma callsUpTo_succ (openings : List Opening) (h : n < texts.length) :
    callsUpTo openings texts (n + 1) =
      callsUpTo openings texts n ++ (callsAt openings n texts[n]).map (n, ·) := by
  have lt : n < texts.zipIdx.length := by simpa using h
  rw [callsUpTo, List.take_add_one, List.getElem?_eq_getElem lt, List.getElem_zipIdx,
    List.flatMap_append, callsUpTo]
  simp

/-- The first request that is left is the one of the call whose turn it is. -/
lemma of_requestsFrom {text : String} {call : Nat} {rest : List CopyRequest}
    (h : requestsFrom texts n = (text, call) :: rest) :
    call = n ∧ ∃ lt : n < texts.length, text = texts[n] ∧ rest = requestsFrom texts (n + 1) := by
  have lt : n < texts.zipIdx.length := by
    refine Nat.lt_of_not_le fun le => ?_
    rw [requestsFrom, List.drop_eq_nil_of_le le] at h
    cases h
  rw [requestsFrom, List.drop_eq_getElem_cons lt] at h
  obtain ⟨head, rfl⟩ := List.cons.inj h
  rw [List.getElem_zipIdx, Nat.zero_add] at head
  cases head
  exact ⟨rfl, by simpa using lt, rfl, rfl⟩

/-- The requests from a number on have no smaller one. -/
lemma le_of_mem_requestsFrom {r : CopyRequest} (h : r ∈ requestsFrom texts n) : n ≤ r.2 := by
  obtain ⟨i, lt, rfl⟩ := List.mem_iff_getElem.1 h
  simp [requestsFrom]

/-- The clipboard is given the texts behind the refused attempts, if there is a handle then. -/
lemma textsSet_callsUpTo (openings : List Opening) (h : n ≤ texts.length) :
    textsSet (callsUpTo openings texts n) =
      if decision openings (refusals openings) = .opened then
        (texts.take n).drop (refusals openings)
      else [] := by
  induction n with
  | zero => simp [textsSet, callsUpTo]
  | succ n ih =>
    have own : textsSet ((callsAt openings n texts[n]).map (n, ·)) =
        if decision openings n = .opened then [texts[n]] else [] := by
      by_cases attempt : n ≤ refusals openings <;>
        by_cases opened : decision openings n = .opened <;>
          simp [textsSet, callsAt, attempt, opened]
    rw [callsUpTo_succ openings h, textsSet, List.filterMap_append, ← textsSet, ← textsSet,
      ih (Nat.le_of_succ_le h), own]
    rcases Nat.lt_or_ge n (refusals openings) with early | late
    · -- nothing is set while the attempts are refused
      obtain ⟨reason, refused⟩ := decision_of_lt early
      have none (k : Nat) (le : k ≤ refusals openings) :
          (texts.take k).drop (refusals openings) = [] :=
        List.drop_eq_nil_of_le (Nat.le_trans (List.length_take_le _ _) le)
      rw [none n (Nat.le_of_lt early), none (n + 1) early]
      simp [refused]
    · have same : decision openings n = decision openings (refusals openings) := by
        rw [decision, decision, Nat.min_eq_right late, Nat.min_self]
      rw [same, List.take_add_one, List.getElem?_eq_getElem h,
        List.drop_append_of_le_length (by simp; omega)]
      split
      · rfl
      · rfl

end Numbers

section Invariant

variable (openings : List Opening) (settings : List (Option String))

/-- The worker has carried out the request of a call, or is lost. -/
def IsPast (n call : Nat) : Prop := call < n ∨ (stateAt openings settings n).lost = true

/-- A receipt has the answer that belongs to the number of its call. -/
inductive Accounts (n call : Nat) : Receipt → Prop
  | awaited :
    Accounts n call .awaited
  | sent :
    IsPast openings settings n call →
    Accounts n call (.sent (answerAt openings settings call))
  | abandoned :
    IsPast openings settings n call →
    answerAt openings settings call = .error stopped →
    Accounts n call .abandoned
  | received :
    IsPast openings settings n call →
    Accounts n call (.received (answerAt openings settings call))

/-- What the thread is at, and which requests are left in the channel, when the requests of the
calls in front of a number are carried out. -/
def Reaches (texts : List String) (n : Nat) (requests : List CopyRequest) : WorkerThread → Prop
  | .idle =>
    (stateAt openings settings n).lost = false ∧ requests = requestsFrom texts n
  | .serving r =>
    (stateAt openings settings n).lost = false ∧ requestsFrom texts n = r :: requests
  | .answering call answer =>
    (stateAt openings settings n).lost = false ∧ requests = requestsFrom texts n ∧
      n = call + 1 ∧ answer = answerAt openings settings call
  | .unwinding =>
    (stateAt openings settings n).lost = true ∧ requests = requestsFrom texts n
  | .gone =>
    (stateAt openings settings n).lost = true ∧ ∀ r ∈ requests, n ≤ r.2

/-- The calls in front of a number have been carried out in their order, and no others. -/
structure Ordered (n : Nat) (s : ClipboardService) : Prop where
  length : s.receipts.length = s.texts.length
  le : n ≤ s.texts.length
  worker : s.worker = stateAt openings settings n
  log : s.log = callsUpTo openings s.texts n
  thread : Reaches openings settings s.texts n s.requests s.thread
  receipts : ∀ (call : Nat) (receipt : Receipt), s.receipts[call]? = some receipt →
    Accounts openings settings n call receipt

end Invariant

variable {openings : List Opening} {settings : List (Option String)} {n : Nat}
  {s s' : ClipboardService}

/-- A receipt keeps its answer when one more request is carried out. -/
lemma Accounts.succ {call : Nat} {receipt : Receipt}
    (h : Accounts openings settings n call receipt) :
    Accounts openings settings (n + 1) call receipt := by
  have later (past : IsPast openings settings n call) : IsPast openings settings (n + 1) call :=
    past.imp Nat.lt_succ_of_lt lost_stateAt_succ
  cases h with
  | awaited => exact .awaited
  | sent past => exact .sent (later past)
  | abandoned past answer => exact .abandoned (later past) answer
  | received past => exact .received (later past)

/-- The receipts account for their calls where one of them is replaced by one that does. -/
lemma accounts_set {receipts : List Receipt} {call : Nat} {receipt : Receipt}
    (h : ∀ (i : Nat) (r : Receipt), receipts[i]? = some r → Accounts openings settings n i r)
    (new : Accounts openings settings n call receipt) (i : Nat) (r : Receipt)
    (here : (receipts.set call receipt)[i]? = some r) : Accounts openings settings n i r := by
  rw [List.getElem?_set] at here
  split at here
  · next same =>
    subst same
    split at here
    · cases here
      exact new
    · cases here
  · exact h i r here

/-- Before the first call none has been carried out. -/
lemma ordered_start (openings : List Opening) (settings : List (Option String)) :
    Ordered openings settings 0 (start openings settings) where
  length := rfl
  le := Nat.le_refl 0
  worker := (stateAt_of_le settings (Nat.zero_le _)).symm
  log := rfl
  thread := ⟨by simp [stateAt], rfl⟩
  receipts := by simp [start]

/-- A new call leaves those in front as they are. -/
lemma Ordered.asks (h : Ordered openings settings n s) (asks : Asks s s') :
    Ordered openings settings n s' := by
  have old (i : Nat) (receipt new : Receipt) (here : (s.receipts ++ [new])[i]? = some receipt)
      (last : Accounts openings settings n s.texts.length new) :
      Accounts openings settings n i receipt := by
    rw [List.getElem?_append] at here
    split at here
    · exact h.receipts i receipt here
    · next late =>
      cases k : i - s.receipts.length with
      | zero =>
        obtain rfl : i = s.texts.length := by have := h.length; omega
        rw [k] at here
        cases here
        exact last
      | succ k' => simp [k] at here
  cases asks with
  | heard text listens =>
    refine ⟨by simp [h.length], by simp [Nat.le_succ_of_le h.le], h.worker, ?_, ?_, ?_⟩
    · rw [callsUpTo_append openings h.le]
      exact h.log
    · have reaches := h.thread
      have more := requestsFrom_append h.le text
      cases thread : s.thread with
      | idle =>
        rw [thread] at reaches
        exact ⟨reaches.1, by rw [more, reaches.2]⟩
      | serving r =>
        rw [thread] at reaches
        exact ⟨reaches.1, by rw [more, reaches.2]; rfl⟩
      | answering call answer =>
        rw [thread] at reaches
        exact ⟨reaches.1, by rw [more, reaches.2.1], reaches.2.2⟩
      | unwinding =>
        rw [thread] at reaches
        exact ⟨reaches.1, by rw [more, reaches.2]⟩
      | gone => exact absurd thread listens
    · exact fun i receipt here => old i receipt _ here .awaited
  | unheard text gone =>
    have reaches := h.thread
    rw [gone] at reaches
    refine ⟨by simp [h.length], by simp [Nat.le_succ_of_le h.le], h.worker, ?_, ?_, ?_⟩
    · rw [callsUpTo_append openings h.le]
      exact h.log
    · simp only [gone]
      exact reaches
    · refine fun i receipt here => old i receipt _ here ?_
      rw [← answerAt_of_lost (i := s.texts.length) reaches.1 (Nat.le_succ_of_le h.le)]
      exact .received (.inr reaches.1)

/-- The thread carries the calls out in their order. -/
lemma Ordered.works (h : Ordered openings settings n s) (works : Works s s') :
    ∃ n', Ordered openings settings n' s' := by
  have reaches := h.thread
  cases works with
  | take idle next =>
    rw [idle] at reaches
    exact ⟨n, { h with thread := ⟨reaches.1, by rw [← reaches.2, next]⟩ }⟩
  | @serve _ call serving here =>
    rw [serving] at reaches
    obtain ⟨rfl, lt, rfl, rest⟩ := of_requestsFrom reaches.2
    rw [h.worker, run_write_stateAt] at here ⊢
    refine ⟨call + 1, h.length, lt, rfl, ?_, ⟨here, rest, rfl, rfl⟩, ?_⟩
    · rw [callsUpTo_succ openings lt, h.log]
    · exact fun i receipt mem => (h.receipts i receipt mem).succ
  | @crash _ call serving lost =>
    rw [serving] at reaches
    obtain ⟨rfl, lt, rfl, rest⟩ := of_requestsFrom reaches.2
    rw [h.worker, run_write_stateAt] at lost ⊢
    refine ⟨call + 1, by simpa using h.length, lt, rfl, ?_, ⟨lost, rest⟩, ?_⟩
    · rw [callsUpTo_succ openings lt, h.log]
    · refine accounts_set (fun i receipt mem => (h.receipts i receipt mem).succ) ?_
      exact .abandoned (.inr lost) (answerAt_of_lost lost (Nat.le_refl _))
  | @answer call a answering =>
    rw [answering] at reaches
    obtain ⟨here, rest, rfl, rfl⟩ := reaches
    refine ⟨call + 1, by simpa using h.length, h.le, h.worker, h.log, ⟨here, rest⟩, ?_⟩
    exact accounts_set h.receipts (.sent (.inl (Nat.lt_succ_self call)))
  | close unwinding =>
    rw [unwinding] at reaches
    refine ⟨n, { h with thread := ⟨reaches.1, fun r mem => ?_⟩ }⟩
    exact le_of_mem_requestsFrom (reaches.2 ▸ mem)
  | @discard text call rest gone next =>
    rw [gone, next] at reaches
    obtain ⟨lost, later⟩ := reaches
    refine ⟨n, by simpa using h.length, h.le, h.worker, h.log, ?_, ?_⟩
    · simp only [gone]
      exact ⟨lost, fun r mem => later r (List.mem_cons_of_mem _ mem)⟩
    · refine accounts_set h.receipts (.abandoned (.inr lost) (answerAt_of_lost lost ?_))
      exact Nat.le_succ_of_le (later _ List.mem_cons_self)
  | @receive call a here =>
    refine ⟨n, by simpa using h.length, h.le, h.worker, h.log, h.thread, ?_⟩
    have sent := h.receipts call _ here
    cases sent with
    | sent past => exact accounts_set h.receipts (.received past)
  | @giveUp call here =>
    refine ⟨n, by simpa using h.length, h.le, h.worker, h.log, h.thread, ?_⟩
    have abandoned := h.receipts call _ here
    cases abandoned with
    | abandoned past answer =>
      rw [← answer]
      exact accounts_set h.receipts (.received past)

/-- A state that is reached has its calls in order, and none of them waits for nothing. -/
lemma reached_ordered (reached : Relation.ReflTransGen Step (start openings settings) s) :
    s.Attended ∧ ∃ n, Ordered openings settings n s := by
  induction reached with
  | refl => exact ⟨fun call here => by simp [start] at here, 0, ordered_start openings settings⟩
  | tail _ step ih =>
    obtain ⟨attended, n, ordered⟩ := ih
    rcases step with asks | works
    · exact ⟨attended.asks ordered.length asks, n, ordered.asks asks⟩
    · exact ⟨attended.works works, ordered.works works⟩

/-- What a call has returned with is the answer to its own text: while the attempts to open the
clipboard are refused, the reason of its own attempt; from the first attempt that is not refused on,
what the clipboard said to this very text if there is a handle, and that the worker has stopped if
it was lost. -/
lemma Accounts.answer {call : Nat} {answer : Except Failure Unit}
    (h : Accounts openings settings n call (.received answer)) :
    let first := refusals openings
    let decided := openings.getD first .opened
    (call < first →
        ∃ reason, openings[call]? = some (.refused reason) ∧
          answer = .error (.clipboard reason)) ∧
      (first ≤ call → decided = .opened →
        answer = taken (settings.getD (call - first) none)) ∧
      (first ≤ call → decided ≠ .opened → decided = .crashed ∧ answer = .error stopped) := by
  intro first decided
  cases h with
  | received _ =>
    have here (le : first ≤ call) : decision openings call = decided := by
      rw [decision, Nat.min_eq_right le]
    refine ⟨fun early => ?_, fun late opened => ?_, fun late other => ?_⟩
    · obtain ⟨reason, refused⟩ := decision_of_lt early
      refine ⟨reason, ?_, by rw [answerAt, refused]⟩
      rw [decision, Nat.min_eq_left (Nat.le_of_lt early), List.getD_eq_getElem?_getD] at refused
      cases attempt : openings[call]? with
      | none => rw [attempt] at refused; cases refused
      | some o => rw [attempt] at refused; exact congrArg some refused
    · rw [answerAt, here late, opened]
    · have crashed := (decision_of_le late).resolve_left (here late ▸ other)
      exact ⟨here late ▸ crashed, by rw [answerAt, crashed]⟩

/-- All that callers can come to, whenever they make their calls. -/
theorem answers_of_calls
    (reached : Relation.ReflTransGen Step (start openings settings) s) :
    let first := refusals openings
    let decided := openings.getD first .opened
    let alone (i : Nat) (text : String) :=
      (write text).run (behind { openings, settings } (s.texts.take i))
    (∀ (i : Nat) (text : String) (answer : Except Failure Unit),
      s.texts[i]? = some text → s.receipts[i]? = some (.received answer) →
        answer = (alone i text).value ∧
        (i < first →
          ∃ reason, openings[i]? = some (.refused reason) ∧ answer = .error (.clipboard reason)) ∧
        (first ≤ i → decided = .opened → answer = taken (settings.getD (i - first) none)) ∧
        (first ≤ i → decided ≠ .opened → decided = .crashed ∧ answer = .error stopped)) ∧
      (∃ n ≤ s.texts.length,
        s.log = callsUpTo openings s.texts n ∧
        (∀ (i : Nat) (text : String), s.texts[i]? = some text →
          (alone i text).trace = callsAt openings i text ∧
          ∀ answer, s.receipts[i]? = some (.received answer) →
            i < n ∨ callsAt openings i text = []) ∧
        textsSet s.log = (if decided = .opened then (s.texts.take n).drop first else []) ∧
        (s.worker.holdsHandle = true ↔ first < n ∧ decided = .opened)) ∧
      ComesTo (fun s' => ∀ receipt ∈ s'.receipts, ∃ answer, receipt = .received answer) s := by
  intro first decided alone
  obtain ⟨attended, n, ordered⟩ := reached_ordered reached
  have run {i : Nat} {text : String} (here : s.texts[i]? = some text) :
      alone i text = ⟨answerAt openings settings i, stateAt openings settings (i + 1),
        callsAt openings i text⟩ := by
    have lt : i < s.texts.length := (List.getElem?_eq_some_iff.1 here).1
    have met := behind_stateAt openings settings 0 (s.texts.take i)
    rw [stateAt_of_le settings (Nat.zero_le _), List.length_take, Nat.min_eq_left (Nat.le_of_lt lt),
      Nat.zero_add] at met
    rw [← run_write_stateAt, ← met]
    rfl
  refine ⟨fun i text answer here returned => ?_, ⟨n, ordered.le, ordered.log, ?_, ?_, ?_⟩,
    attended.comesTo⟩
  · have accounts := ordered.receipts i _ returned
    refine ⟨?_, accounts.answer⟩
    rw [run here]
    cases accounts with
    | received _ => rfl
  · refine fun i text here => ⟨by rw [run here], fun answer returned => ?_⟩
    cases ordered.receipts i _ returned with
    | received past =>
      rcases past with early | lost
      · exact .inl early
      · rcases Nat.lt_or_ge i n with early | late
        · exact .inl early
        · exact .inr (callsAt_of_lost lost late text)
  · rw [ordered.log, textsSet_callsUpTo openings ordered.le, decision, Nat.min_self]
  · have here (late : first < n) : decision openings n = decided := by
      rw [decision, Nat.min_eq_right (Nat.le_of_lt late)]
    simp only [ordered.worker, stateAt, decide_eq_true_eq]
    constructor
    · exact fun h => ⟨h.1, here h.1 ▸ h.2⟩
    · exact fun h => ⟨h.1, (here h.1).trans h.2⟩

/-- The text `c` is on its way when the worker is lost with the text in front of it. -/
theorem answers_of_lost_worker :
    let s : ClipboardService := {
      worker := { lost := true, openings := [], settings := [] }
      thread := .gone
      texts := ["a", "b", "c"]
      receipts := [.received (.error (.clipboard "no display")), .received (.error stopped),
        .received (.error stopped)]
      log := [(0, .opening), (1, .opening)] }
    Relation.ReflTransGen Step (start [.refused "no display", .crashed] []) s ∧
      (∀ answer, s.receipts[2]? = some (.received answer) → answer = .error stopped) ∧
      ∃ n ≤ 3, s.log = callsUpTo [.refused "no display", .crashed] s.texts n := by
  intro s
  have run : Relation.ReflTransGen Step (start [.refused "no display", .crashed] []) _ :=
    .tail .refl (.inl (.heard "a" (by simp [start])))
  have run := run.tail (.inr (.take rfl rfl))
  have run := run.tail (.inr (.serve rfl rfl))
  have run := run.tail (.inr (.answer rfl))
  have run := run.tail (.inr (@Works.receive _ 0 _ rfl))
  have run := run.tail (.inl (.heard "b" (by simp)))
  have run := run.tail (.inr (.take rfl rfl))
  have run := run.tail (.inl (.heard "c" (by simp)))
  have run := run.tail (.inr (.crash rfl rfl))
  have run := run.tail (.inr (@Works.giveUp _ 1 rfl))
  have run := run.tail (.inr (.close rfl))
  have run := run.tail (.inr (.discard rfl rfl))
  have run := run.tail (.inr (@Works.giveUp _ 2 rfl))
  have run : Relation.ReflTransGen Step (start [.refused "no display", .crashed] []) s := run
  have ⟨answers, carried, _⟩ := answers_of_calls run
  refine ⟨run, fun answer returned => ?_, ?_⟩
  · exact ((answers 2 "c" answer rfl returned).2.2.2 (by decide) (by decide)).2
  · obtain ⟨n, le, log, _⟩ := carried
    exact ⟨n, le, log⟩

end Shortlink.ClipboardService

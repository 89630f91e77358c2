import Shortlink.Proofs.Server.Asking
import Shortlink.Proofs.Wire

/-!
# The count of the links

The number in a response counts, whatever the status of the response is, and the count is unknown
where no number comes. A count that is to rest on successful responses alone differs from that one
exactly where a response that tells of a failure has a number in its body all the same.
-/

namespace Shortlink

/-- A response supplies a number: its body arrives, and its bytes are a count reply with the
number. -/
def Response.Supplies (r : Response) (n : Int64) : Prop :=
  ∃ bytes, r.bytes? = some bytes ∧ CountReply.readBytes bytes = .ok ⟨some n⟩

namespace Server

variable {s : Server} {net : Network} {n m : Int64}

/-- The question for the count is answered with this number by a response that may be relied on. -/
def Answered (s : Server) (net : Network) (reliable : Response → Prop) (n : Int64) : Prop :=
  ∃ r, net.response? s.countUrl = some r ∧ reliable r ∧ r.Supplies n

/-- What the count is when only some responses may be relied on: the number that one of them
supplies, and unknown where none does. -/
inductive Counts (s : Server) (net : Network) (reliable : Response → Prop) : Int64 → Prop
  | answered {n : Int64} : s.Answered net reliable n → Counts s net reliable n
  | unanswered : (∀ n, ¬ s.Answered net reliable n) → Counts s net reliable unknownCount

/-- A number does not come from a response that tells of a failure, unless it says itself that the
count is unknown. -/
def Sincere (s : Server) (net : Network) : Prop :=
  ∀ r n, net.response? s.countUrl = some r → r.Supplies n → n ≠ unknownCount → r.isSuccess = true

/-- A response supplies one number at most. -/
lemma supplies_unique {r : Response} (h : r.Supplies n) (h' : r.Supplies m) : n = m := by
  obtain ⟨bytes, arrived, read⟩ := h
  obtain ⟨bytes', arrived', read'⟩ := h'
  obtain rfl : bytes = bytes' := Option.some.inj (arrived.symm.trans arrived')
  rw [read] at read'
  cases read'
  rfl

section

variable {reliable : Response → Prop}

/-- With a response there, the question is answered by this one. -/
lemma answered_iff {r : Response} (answer : net.response? s.countUrl = some r) :
    s.Answered net reliable n ↔ reliable r ∧ r.Supplies n := by
  constructor
  · rintro ⟨r', answer', h⟩
    obtain rfl : r = r' := Option.some.inj (answer.symm.trans answer')
    exact h
  · exact fun h => ⟨r, answer, h⟩

/-- Without a response the question is not answered. -/
lemma not_answered (answer : net.response? s.countUrl = none) :
    ¬ s.Answered net reliable n := by
  rintro ⟨r, answer', -⟩
  rw [answer] at answer'
  cases answer'

/-- The question is answered with one number at most. -/
lemma Answered.unique (h : s.Answered net reliable n) (h' : s.Answered net reliable m) :
    n = m := by
  obtain ⟨r, answer, -, supplies⟩ := h
  exact supplies_unique supplies ((answered_iff answer).1 h').2

/-- No two counts go with the same responses. -/
lemma Counts.unique (h : s.Counts net reliable n) (h' : s.Counts net reliable m) : n = m := by
  cases h with
  | answered h =>
    cases h' with
    | answered h' => exact h.unique h'
    | unanswered none => exact (none n h).elim
  | unanswered none =>
    cases h' with
    | answered h' => exact (none m h').elim
    | unanswered _ => rfl

end

/-- The number that a response supplies is taken for the count. -/
lemma countOf_of_supplies {r : Response} (h : r.Supplies n) : countOf r = n := by
  obtain ⟨bytes, arrived, read⟩ := h
  rw [countOf, arrived, Option.map_some, read]
  rfl

/-- A response that supplies no number leaves the count unknown. -/
lemma countOf_of_not_supplies {r : Response} (h : ∀ n, ¬ r.Supplies n) :
    countOf r = unknownCount := by
  rw [countOf]
  cases arrived : r.bytes? with
  | none => rfl
  | some bytes =>
    rw [Option.map_some]
    cases read : CountReply.readBytes bytes with
    | error _ => rfl
    | ok reply =>
      obtain ⟨_ | n⟩ := reply
      · rfl
      · exact (h n ⟨bytes, arrived, read⟩).elim

/-- The count is that of the response, and it is unknown without one. -/
lemma count_value (s : Server) (net : Network) :
    (s.count.run net).value =
      match net.response? s.countUrl with
      | some r => countOf r
      | none => unknownCount := by
  rw [count, Traced.run_bind, Network.send_value]
  cases net.response? s.countUrl <;> rfl

/-- Every response is relied on. -/
lemma counts_value (s : Server) (net : Network) :
    s.Counts net (fun _ => True) (s.count.run net).value := by
  rw [count_value]
  cases answer : net.response? s.countUrl with
  | none => exact .unanswered fun n => not_answered answer
  | some r =>
    show Counts _ _ _ (countOf r)
    by_cases supplied : ∃ n, r.Supplies n
    · obtain ⟨n, supplies⟩ := supplied
      rw [countOf_of_supplies supplies]
      exact .answered ((answered_iff answer).2 ⟨trivial, supplies⟩)
    · rw [not_exists] at supplied
      rw [countOf_of_not_supplies supplied]
      exact .unanswered fun n h => supplied n ((answered_iff answer).1 h).2

/-- Relying on every response makes no difference exactly if failures come without a number. -/
lemma Counts.successful_iff (h : s.Counts net (fun _ => True) n) :
    s.Counts net (·.isSuccess = true) n ↔ s.Sincere net := by
  constructor
  · intro due r m answer supplies known
    have own : s.Answered net (fun _ => True) m := (answered_iff answer).2 ⟨trivial, supplies⟩
    obtain rfl : m = n := (Counts.answered own).unique h
    cases due with
    | answered due => exact ((answered_iff answer).1 due).1
    | unanswered _ => exact (known rfl).elim
  · intro sincere
    cases h with
    | unanswered none =>
      exact .unanswered fun m ⟨r, answer, _, supplies⟩ => none m ⟨r, answer, trivial, supplies⟩
    | answered h =>
      obtain ⟨r, answer, -, supplies⟩ := h
      by_cases success : r.isSuccess = true
      · exact .answered ((answered_iff answer).2 ⟨success, supplies⟩)
      · obtain rfl : n = unknownCount := by
          by_contra known
          exact success (sincere r n answer supplies known)
        exact .unanswered fun m due => success ((answered_iff answer).1 due).1

/-- The count is the number that the response supplies, and unknown where it supplies none. It is
the one that rests on successful responses alone exactly if no failure comes with a number. -/
theorem count_outcome (s : Server) (net : Network) :
    (∀ n, (s.count.run net).value = n ↔ s.Counts net (fun _ => True) n) ∧
      (s.Counts net (·.isSuccess = true) (s.count.run net).value ↔ s.Sincere net) := by
  have counts := s.counts_value net
  refine ⟨fun n => ?_, counts.successful_iff⟩
  constructor
  · rintro rfl
    exact counts
  · exact counts.unique

/-- A server that fails, and has a number in its reply. -/
def failing : Network where
  up := true
  replies := [.response ⟨500, [], Text.Utf8.encode "\x7b\"count\":7\x7d".toList, false⟩]

/-- The count is taken from a response that tells of a failure. -/
theorem count_failing :
    ofUrl "http://localhost:8080/api" = .ok localhost ∧
      (localhost.count.run failing).value = 7 ∧
      ¬ localhost.Counts failing (·.isSuccess = true) (localhost.count.run failing).value := by
  have value : (localhost.count.run failing).value = 7 := by decide +kernel
  refine ⟨ofUrl_localhost, value, ?_⟩
  rw [value]
  intro due
  cases due with
  | answered due =>
    obtain ⟨r, answer, success, -⟩ := due
    obtain rfl := Option.some.inj answer
    cases success

end Server

end Shortlink

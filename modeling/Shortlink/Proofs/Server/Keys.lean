import Shortlink.Proofs.Server.Asking

/-!
# The link of a key

What is made of the reply where the link of a key is to be removed, or its long URL is asked for. A
blank key is refused, and for any other one the response decides.
-/

namespace Shortlink

/-- A response tells where a redirection leads. -/
def Response.Leads (r : Response) (url : String) : Prop :=
  r.isRedirection = true ∧ r.location? = some url

namespace Server

variable {s : Server} {key : Key}

/-- A blank key is refused where it is to be looked up, with nothing sent. -/
lemma resolve_of_blank (blank : Text.isBlankText key = true) (n : Network) :
    (s.resolve key).run n = ⟨.error (.validation "Please enter a short URL key."), n, []⟩ := by
  rw [resolve, if_pos blank]
  rfl

/-- A key that is not blank is looked up in the response, and without one the network has failed. -/
lemma resolve_value (full : Text.isBlankText key = false) (n : Network) :
    ((s.resolve key).run n).value =
      match n.response? (s.keyUrl key) with
      | some r => longUrlOf r
      | none => .error (.network (Network.failure (s.keyUrl key)).message) := by
  rw [resolve, if_neg (by simp [full]), Traced.run_bind, Network.send_value]
  cases n.response? (s.keyUrl key) <;> rfl

/-- A response gives a long URL exactly if it leads there. -/
lemma longUrlOf_some_iff {r : Response} {url : String} :
    longUrlOf r = .ok (some url) ↔ r.Leads url := by
  rw [longUrlOf, Response.Leads]
  by_cases missing : r.status = 404
  · simp [missing, Response.isRedirection]
  · rw [if_neg missing]
    cases redirects : r.isRedirection with
    | false => simp
    | true => cases r.location? <;> simp

/-- A response never makes the key invalid. -/
lemma longUrlOf_ne_validation (r : Response) (m : String) :
    longUrlOf r ≠ .error (.validation m) := by
  rw [longUrlOf]
  split
  · exact fun e => by cases e
  · split
    · split <;> exact fun e => by cases e
    · exact fun e => by cases e

/-- The long URL is found exactly if the key is not blank and the response leads there. -/
lemma resolve_some_iff {n : Network} {url : String} :
    ((s.resolve key).run n).value = .ok (some url) ↔
      Text.isBlankText key = false ∧ ∃ r, n.response? (s.keyUrl key) = some r ∧ r.Leads url := by
  cases blank : Text.isBlankText key with
  | true => simp [resolve_of_blank blank]
  | false =>
    rw [resolve_value blank]
    cases n.response? (s.keyUrl key) with
    | none => simp
    | some r => simp [longUrlOf_some_iff]

/-- Only a blank key is refused. -/
lemma resolve_refuses {n : Network} {m : String}
    (h : ((s.resolve key).run n).value = .error (.validation m)) :
    m = "Please enter a short URL key." := by
  cases blank : Text.isBlankText key with
  | true =>
    rw [resolve_of_blank blank] at h
    cases h
    rfl
  | false =>
    rw [resolve_value blank] at h
    cases answered : n.response? (s.keyUrl key) with
    | none =>
      rw [answered] at h
      cases h
    | some r =>
      rw [answered] at h
      exact absurd h (longUrlOf_ne_validation r m)

end Server

end Shortlink

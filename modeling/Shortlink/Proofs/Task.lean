import Shortlink.Proofs.Command
import Shortlink.Proofs.Server.Exchange
import Shortlink.Task

/-!
# Tasks that are typed

What can be asked for on the command line can be typed into the shell. Both ways lead to the same
action: a URL loses the blanks around it on either of them, in the line or in front of the request,
and a key is taken as it is where it has none.
-/

namespace Shortlink

namespace Server

/-- The blanks around an input make no difference to shortening it. -/
lemma shorten_trim (s : Server) (input : String) :
    s.shorten (Text.trim input) = s.shorten input := by
  rw [shorten, shorten, Text.isBlankText_trim, Text.trim_trim]

end Server

namespace Session

/-- The blanks around a URL do not matter. -/
lemma shorten_trim (input : String) : shorten (Text.trim input) = shorten input := by
  simp only [shorten, Server.shorten_trim]

end Session

namespace Text

/-- A text without blanks around it is not blank if it is not empty. -/
lemma isBlankText_of_trim {s : String} (full : s ≠ "") (own : trim s = s) :
    isBlankText s = false := by
  rw [isBlankText, own, ← Bool.not_eq_true, String.isEmpty_iff]
  exact full

end Text

namespace Task

/-- A line that asks for the same as a task: the word for the action, a blank, and what it is about.
A key is written without blanks around it. -/
inductive TypedAs : Task → String → Prop
  | count : TypedAs .count "count"
  | shorten (url : String) : TypedAs (.shorten url) ("shorten " ++ url)
  | delete {key : Key} :
    key ≠ "" → Text.trim key = key → TypedAs (.delete key) ("delete " ++ key)
  | resolve {key : Key} :
    key ≠ "" → Text.trim key = key → TypedAs (.resolve key) ("resolve " ++ key)

/-- What is made of the result of an action is not seen. -/
lemma run_map {α β : Type} (m : Action α) (f : α → β) (s : Session) :
    (do return f (← m) : Action β).run s =
      ⟨f (m.run s).value, (m.run s).state, (m.run s).trace⟩ := by
  rw [Traced.run_bind, Traced.run_pure, List.append_nil]

/-- A task and the line that asks for the same come to one action, of which the task and the shell
make different things. -/
lemma TypedAs.action {t : Task} {line : String} (typed : t.TypedAs line) (input : List UInt8) :
    ∃ (α : Type) (m : Action α) (f : α → Bool),
      t.run input = (do return .ok (f (← m))) ∧
        Shell.dispatch (Command.parse line) = do return (fun _ => true) (← m) := by
  cases typed with
  | count => exact ⟨_, Session.refreshCount, fun _ => true, rfl, rfl⟩
  | shorten url =>
    refine ⟨_, Session.shorten url, (·.isSome), rfl, ?_⟩
    rw [Command.parse_shorten, Shell.dispatch, Session.shorten_trim]
  | @delete key full own =>
    refine ⟨_, Session.delete key, (· != .failed), rfl, ?_⟩
    rw [Command.parse_delete, Text.isBlankText_of_trim full own, own]
    rfl
  | @resolve key full own =>
    refine ⟨_, Session.resolve key, (·.isSome), rfl, ?_⟩
    rw [Command.parse_resolve (Text.isBlankText_of_trim full own), own]
    rfl

/-- A task and the line that asks for the same are not told apart in any session, whatever replies
there are: all that the outside sees is the same, in the same order, and so is the session behind
it. The task ends by telling whether it succeeded, and behind the line the shell goes on. -/
theorem dispatch_eq_run {t : Task} {line : String} (typed : t.TypedAs line) (input : List UInt8)
    (s : Session) :
    let r := (t.run input).run s
    let r' := (Shell.dispatch (Command.parse line)).run s
    r'.trace = r.trace ∧ r'.state = r.state ∧ r'.value = true ∧
      ∃ succeeded, r.value = .ok succeeded := by
  obtain ⟨α, m, f, task, shell⟩ := typed.action input
  intro r r'
  have ran : r = _ := (congrArg (·.run s) task).trans (run_map m _ s)
  have ran' : r' = _ := (congrArg (·.run s) shell).trans (run_map m _ s)
  rw [ran, ran']
  exact ⟨rfl, rfl, rfl, _, rfl⟩

/-- A URL with a blank in it, between blanks, is sent without those around it on either way. -/
theorem dispatch_eq_run_of_padded_url :
    ∃ server, Server.ofUrl "http://localhost:8080/api" = .ok server ∧
      let s : Session := {
        server, network := ⟨true, [.hung, .closed]⟩, notifier := { duration := 2500 } }
      let r := ((Task.shorten "\t delete x ").run []).run s
      let r' := (Shell.dispatch (Command.parse "shorten \t delete x ")).run s
      r'.trace = r.trace ∧ r'.state = r.state ∧
        (requests r.trace).map (fun q => (q.method, q.target, q.body)) =
          [(.post, "http://localhost:8080/api", some "\x7b\"url\":\"delete x\"\x7d"),
            (.get, "http://localhost:8080/api/ping", none)] := by
  refine ⟨_, Server.ofUrl_localhost, ?_⟩
  intro s r r'
  obtain ⟨trace, state, -⟩ := dispatch_eq_run (.shorten "\t delete x ") [] s
  exact ⟨trace, state, by decide +kernel⟩

end Task

end Shortlink

import Mathlib.Tactic.Lemma
import Shortlink.Shell
import Shortlink.Text.Utf8.WellFormed

/-!
# The lines of the shell

The shell reads its lines up to the first that asks to leave. Whatever comes of them, it ends well
exactly if all of these lines are well-formed text; what stands behind them does not matter.
-/

namespace Shortlink.Shell

/-- A line is the bytes of a text. -/
def IsText (line : List UInt8) : Prop := ∃ text : String, line = Text.Utf8.encode text.toList

/-- A line is text exactly if it can be decoded. -/
lemma lineText?_isSome_iff {line : List UInt8} : (lineText? line).isSome = true ↔ IsText line := by
  rw [lineText?, Option.isSome_map, Option.isSome_iff_exists]
  simp only [Text.Utf8.decode?_eq_some_iff]
  constructor
  · rintro ⟨cs, rfl⟩
    exact ⟨String.ofList cs, by rw [String.toList_ofList]⟩
  · rintro ⟨text, rfl⟩
    exact ⟨text.toList, rfl⟩

/-- Whether a line asks to leave. -/
def leaves (line : List UInt8) : Bool :=
  (lineText? line).any fun text => Command.parse text = .quit

/-- The lines that are read: those up to the first that asks to leave. -/
def linesRead : List (List UInt8) → List (List UInt8)
  | [] => []
  | line :: rest => line :: if leaves line then [] else linesRead rest

/-- The shell goes on behind every command but one. -/
lemma dispatch_value (c : Command) (s : Session) :
    ((dispatch c).run s).value = decide (c ≠ .quit) := by
  cases c with
  | delete key? => cases key? <;> rfl
  | _ => rfl

/-- Lines are carried out to the end exactly if all that are read are well-formed text. -/
lemma runLines_ok_iff (lines : List (List UInt8)) (s : Session) :
    ((runLines lines).run s).value = .ok () ↔ ∀ line ∈ linesRead lines, IsText line := by
  simp only [← lineText?_isSome_iff]
  -- the session differs from line to line, but no command asks it whether to go on
  induction lines generalizing s with
  | nil => simp [runLines, linesRead]
  | cons line rest ih =>
    rw [runLines, linesRead]
    cases text? : lineText? line with
    | none => simp [text?]
    | some text =>
      rw [Traced.run_bind, dispatch_value]
      by_cases quits : Command.parse text = .quit
      · simp [leaves, text?, quits]
      · simp [leaves, text?, quits, ih]

/-- A run ends well exactly if all lines that it reads are texts. -/
lemma run_ok_iff (input : List UInt8) (s : Session) :
    ((run input).run s).value = .ok () ↔
      ∀ line ∈ linesRead (splitLines input), IsText line := by
  rw [run, Traced.run_bind, Traced.run_bind, Traced.run_bind, ← runLines_ok_iff]
  cases ((runLines (splitLines input)).run _).value with
  | error e => simp
  | ok _ => exact ⟨fun _ => rfl, fun _ => rfl⟩

end Shortlink.Shell

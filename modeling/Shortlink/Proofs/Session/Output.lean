import Shortlink.Proofs.Session.Notices

/-!
# What is printed

The output of a session is made of whole lines, and a message on view begins one of them.
-/

namespace Shortlink

/-- A text is made of whole lines. -/
def IsLines (text : String) : Prop := text = "" ∨ ∃ front, text = front ++ "\n"

/-- Whole lines stay whole one behind the other. -/
lemma IsLines.append {a b : String} (ha : IsLines a) (hb : IsLines b) : IsLines (a ++ b) := by
  obtain rfl | ⟨front, rfl⟩ := hb
  · rw [String.append_empty]
    exact ha
  · exact .inr ⟨a ++ front, by rw [String.append_assoc]⟩

/-- What is printed of an update is whole lines. -/
lemma isLines_printed (u : Update) : IsLines u.printed := by
  cases u with
  | count n => exact .inr ⟨countLine n, rfl⟩
  | panel link? =>
    cases link? with
    | some link => exact .inr ⟨link.panel, rfl⟩
    | none => exact .inr ⟨"(result cleared)", rfl⟩
  | notification message? =>
    cases message? with
    | some message => exact .inr ⟨">> " ++ message, rfl⟩
    | none => exact .inl rfl

/-- What is printed of an event is whole lines. -/
lemma isLines_effect (e : Effect) : IsLines e.output := by
  cases e with
  | shown u => exact isLines_printed u
  | printed text => exact .inr ⟨text, rfl⟩
  | requested q => exact .inl rfl
  | copied text => exact .inl rfl

/-- What is printed of two traces comes one behind the other. -/
lemma output_append (trace trace' : List Effect) :
    output (trace ++ trace') = output trace ++ output trace' := by
  rw [output, List.map_append, String.join_append]
  rfl

/-- What is printed of the first event comes first. -/
lemma output_cons (e : Effect) (trace : List Effect) :
    output (e :: trace) = e.output ++ output trace := String.join_cons

/-- All that is printed is whole lines. -/
lemma isLines_output (trace : List Effect) : IsLines (output trace) := by
  induction trace with
  | nil => exact .inl rfl
  | cons e trace ih =>
    rw [output_cons]
    exact (isLines_effect e).append ih

/-- A message on view is a line of the output. -/
lemma output_of_notice {trace : List Effect} {message : String} (h : message ∈ notices trace) :
    ∃ front back, output trace = front ++ (">> " ++ message ++ "\n") ++ back ∧ IsLines front := by
  obtain ⟨e, mem, shown⟩ := List.mem_filterMap.1 h
  obtain rfl := Effect.notice?_eq_some_iff.1 shown
  obtain ⟨front, back, rfl⟩ := List.append_of_mem mem
  refine ⟨output front, output back, ?_, isLines_output front⟩
  rw [output_append, output_cons, String.append_assoc]
  rfl

end Shortlink

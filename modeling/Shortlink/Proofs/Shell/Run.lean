import Shortlink.Proofs.Session.Heedless
import Shortlink.Proofs.Session.Output
import Shortlink.Proofs.Session.Requests
import Shortlink.Proofs.Shell.Lines

/-!
# Runs of the shell

The shell carries out its lines from left to right. So a run on lines and more comes to the run on
these lines and then to that on what is more; nothing behind a line that asks to leave matters, and
nothing is done from the first line on that is no text. The form of the line ends does not matter
either.
-/

namespace Shortlink.Shell

/-- A line of text that does not ask to leave. -/
def Passes (line : List UInt8) : Prop := 10 ∉ line ∧ IsText line ∧ leaves line = false

/-! ## Lines -/

/-- A line asks for something exactly if it is text. -/
lemma command?_isSome_iff {line : List UInt8} : (command? line).isSome = true ↔ IsText line := by
  rw [command?, Option.isSome_map, lineText?_isSome_iff]

/-- A line leaves exactly if it asks for that. -/
lemma leaves_iff {line : List UInt8} : leaves line = true ↔ command? line = some .quit := by
  rw [leaves, command?]
  cases lineText? line with
  | none => simp
  | some text => simp

/-- A line that passes asks for something else than to leave. -/
lemma Passes.command? {line : List UInt8} (h : Passes line) :
    ∃ c, command? line = some c ∧ c ≠ .quit := by
  obtain ⟨-, text, stays⟩ := h
  obtain ⟨c, asks⟩ := Option.isSome_iff_exists.1 (command?_isSome_iff.2 text)
  refine ⟨c, asks, ?_⟩
  rintro rfl
  rw [leaves_iff.2 asks] at stays
  cases stays

/-- The first line is carried out, and the others if it does not leave. -/
lemma runLines_cons (line : List UInt8) (rest : List (List UInt8)) :
    runLines (line :: rest) =
      match command? line with
      | none => return .error ⟨⟩
      | some c => do if ← dispatch c then runLines rest else return .ok () := by
  rw [runLines, command?]
  cases lineText? line <;> rfl

/-- Only what is asked for matters. -/
lemma runLines_congr {lines lines' : List (List UInt8)}
    (same : lines.map command? = lines'.map command?) : runLines lines = runLines lines' := by
  induction lines generalizing lines' with
  | nil => rw [List.map_eq_nil_iff.1 same.symm]
  | cons line lines ih =>
    obtain ⟨line', lines', rfl, head, tail⟩ := List.map_eq_cons_iff.1 same.symm
    rw [runLines_cons, runLines_cons, head, ih tail.symm]

/-- Behind a line that passes the shell goes on. -/
lemma runLines_cons_of_asks {line : List UInt8} {c : Command} (asks : command? line = some c)
    (stays : c ≠ .quit) (rest : List (List UInt8)) :
    runLines (line :: rest) = dispatch c >>= fun _ => runLines rest := by
  funext s
  have goes : ((dispatch c).run s).value = true := by rw [dispatch_value, decide_eq_true stays]
  change (runLines (line :: rest)).run s = (dispatch c >>= fun _ => runLines rest).run s
  simp only [runLines_cons, asks]
  rw [Traced.run_bind, Traced.run_bind, goes, if_pos rfl]

/-- Behind lines that pass it goes on with the others. -/
lemma runLines_append {lines : List (List UInt8)} (h : ∀ line ∈ lines, Passes line)
    (rest : List (List UInt8)) :
    runLines (lines ++ rest) = runLines lines >>= fun _ => runLines rest := by
  induction lines with
  | nil => rfl
  | cons line lines ih =>
    obtain ⟨hline, h⟩ := List.forall_mem_cons.1 h
    obtain ⟨c, asks, stays⟩ := hline.command?
    rw [List.cons_append, runLines_cons_of_asks asks stays, runLines_cons_of_asks asks stays, ih h,
      bind_assoc]

/-- Nothing is done behind a line that asks to leave. -/
lemma runLines_append_of_leaves (lines : List (List UInt8)) {line : List UInt8}
    (h : leaves line = true) (rest : List (List UInt8)) :
    runLines (lines ++ line :: rest) = runLines (lines ++ [line]) := by
  induction lines with
  | nil =>
    simp only [List.nil_append, runLines_cons, leaves_iff.1 h]
    rfl
  | cons first lines ih => simp only [List.cons_append, runLines_cons, ih]

/-- An empty line at the end asks for nothing. -/
lemma runLines_append_empty (lines : List (List UInt8)) :
    runLines (lines ++ [[]]) = runLines lines := by
  induction lines with
  | nil => rfl
  | cons line lines ih => simp only [List.cons_append, runLines_cons, ih]

/-- Whether a line ends with a carriage return does not matter. -/
lemma runLines_map_cr (lines rest : List (List UInt8)) :
    runLines (lines.map (· ++ [13]) ++ rest) = runLines (lines ++ rest) := by
  apply runLines_congr
  simp [Function.comp_def, command?_append_cr]

/-! ## Runs -/

/-- What is done before the first line. -/
def opening : Action Unit := do
  Traced.emit (.printed help)
  let _ ← Session.refreshCount

/-- What is done behind the last line. -/
def closing : Except InputError Unit → Action (Except InputError Unit)
  | .error e => return .error e
  | .ok () => do
    Session.onNotifier Notifier.dismiss
    return .ok ()

/-- A run without its end. -/
def unclosed (lines : List (List UInt8)) : Action (Except InputError Unit) := do
  opening
  runLines lines

/-- A run is opened, goes through its lines and is closed. -/
lemma run_eq (input : List UInt8) : run input = unclosed (splitLines input) >>= closing := by
  simp only [run, unclosed, opening, bind_assoc, pure_bind]
  refine bind_congr fun _ => bind_congr fun _ => bind_congr fun r => ?_
  cases r <;> rfl

/-- An input is carried out by its lines. -/
lemma run_congr {input input' : List UInt8}
    (same : runLines (splitLines input) = runLines (splitLines input')) :
    run input = run input' := by
  rw [run_eq, run_eq, unclosed, unclosed, same]

/-- Lines that pass are carried out, and then what follows them. -/
lemma run_terminated_append {lines : List (List UInt8)} (h : ∀ line ∈ lines, Passes line)
    (rest : List UInt8) :
    run (terminated lines ++ rest) =
      unclosed lines >>= fun _ => runLines (splitLines rest) >>= closing := by
  rw [run_eq, splitLines_terminated (fun line mem => (h line mem).1), unclosed, runLines_append h,
    unclosed]
  simp only [bind_assoc]

/-- Closing leaves the result as it is. -/
lemma closing_value (r : Except InputError Unit) (s : Session) : ((closing r).run s).value = r := by
  cases r <;> rfl

/-- In the end nothing is printed and nothing is asked for. -/
lemma closing_trace (r : Except InputError Unit) (s : Session) :
    output ((closing r).run s).trace = "" ∧ requests ((closing r).run s).trace = [] := by
  cases r with
  | error e => exact ⟨rfl, rfl⟩
  | ok u => exact ⟨rfl, rfl⟩

/-- Lines that pass are carried out to the last, and the run is closed. -/
lemma run_terminated {lines : List (List UInt8)} (h : ∀ line ∈ lines, Passes line) (s : Session) :
    let behind := (unclosed lines).run s
    ∃ n, (run (terminated lines)).run s =
      ⟨.ok (), behind.state.withNotifier n, behind.trace ++ [.shown (.notification none)]⟩ := by
  intro behind
  refine ⟨(Notifier.dismiss.run behind.state.notifier).state, ?_⟩
  rw [← List.append_nil (terminated lines), run_terminated_append h, Traced.run_bind]
  rfl

/-- A command does the same whatever message is on view. -/
lemma heedless_dispatch (c : Command) : Session.Heedless (dispatch c) := by
  cases c with
  | shorten url => exact .bind (.shorten url) fun _ => .pure _
  | delete key? =>
    cases key? with
    | none => exact .bind .deleteCurrent fun _ => .pure _
    | some key => exact .bind (.delete key) fun _ => .pure _
  | copy => exact .bind .copyCurrent fun _ => .pure _
  | resolve key => exact .bind (.resolve key) fun _ => .pure _
  | count => exact .bind .refreshCount fun _ => .pure _
  | help => exact .bind (.emit _) fun _ => .pure _
  | quit => exact .pure _
  | empty => exact .pure _
  | unknown line => exact .bind (.notify _) fun _ => .pure _

/-- Lines do the same whatever message is on view. -/
lemma heedless_runLines (lines : List (List UInt8)) : Session.Heedless (runLines lines) := by
  induction lines with
  | nil => exact .pure _
  | cons line lines ih =>
    rw [runLines_cons]
    split
    · exact .pure _
    · apply Session.Heedless.bind (heedless_dispatch _)
      intro goes
      split
      · exact ih
      · exact .pure _

/-- The empty line is a text. -/
lemma ne_nil_of_not_isText {line : List UInt8} (h : ¬ IsText line) : line ≠ [] := by
  rintro rfl
  exact h ⟨"", rfl⟩

/-- A line that is no text ends the run, and what follows it is not looked at. -/
lemma runLines_of_not_isText {line : List UInt8} (h : ¬ IsText line) (rest : List (List UInt8)) :
    runLines (line :: rest) = return .error ⟨⟩ := by
  have unread : command? line = none := by
    rwa [← command?_isSome_iff, Bool.not_eq_true, Option.isSome_eq_false_iff,
      Option.isNone_iff_eq_none] at h
  simp only [runLines_cons, unread]

/-- Behind a line that leaves nothing is read. -/
lemma run_of_leaves {lines : List (List UInt8)} (h : ∀ line ∈ lines, 10 ∉ line)
    {line : List UInt8} (hline : 10 ∉ line) (quits : leaves line = true) (rest : List UInt8) :
    run (terminated lines ++ (line ++ 10 :: rest)) = run (terminated lines ++ line) := by
  have full : line ≠ [] := by
    rintro rfl
    cases quits
  apply run_congr
  rw [splitLines_terminated h, splitLines_terminated h, splitLines_append_lf hline,
    splitLines_of_not_mem hline, if_neg full, runLines_append_of_leaves lines quits]

/-- Carriage returns in front of the line feeds make no difference. -/
lemma run_crlf (input : List UInt8) : run (crlf input) = run input := by
  obtain ⟨lines, last, hlines, hlast, rfl⟩ := exists_eq_terminated_append input
  have unended : ∀ line ∈ lines.map (· ++ [13]), 10 ∉ line := by
    intro line mem
    obtain ⟨line', mem', rfl⟩ := List.mem_map.1 mem
    simpa using hlines line' mem'
  apply run_congr
  rw [crlf_terminated hlines hlast, splitLines_terminated unended, splitLines_terminated hlines,
    runLines_map_cr]

/-- A line feed behind the last line makes no difference. -/
lemma run_append_lf (input : List UInt8) : run (input ++ [10]) = run input := by
  obtain ⟨lines, last, hlines, hlast, rfl⟩ := exists_eq_terminated_append input
  apply run_congr
  rw [List.append_assoc, splitLines_terminated hlines, splitLines_terminated hlines,
    splitLines_append_lf hlast, splitLines_of_not_mem hlast]
  split
  case isTrue empty =>
    rw [empty, List.append_nil]
    exact runLines_append_empty lines
  case isFalse => rfl

/-- To hide the notification prints nothing and asks for nothing. -/
lemma output_append_hide (trace : List Effect) :
    output (trace ++ [.shown (.notification none)]) = output trace := by
  rw [output_append]
  exact String.append_empty

/-- Hiding a message makes no request. -/
lemma requests_append_hide (trace : List Effect) :
    requests (trace ++ [.shown (.notification none)]) = requests trace := by
  rw [Session.requests_append]
  exact List.append_nil _

/-- The others are carried out behind lines that pass as they are behind a run on these. -/
lemma run_terminated_append_eq {lines : List (List UInt8)} (h : ∀ line ∈ lines, Passes line)
    (rest : List UInt8) (s : Session) :
    let first := (run (terminated lines)).run s
    let next := (runLines (splitLines rest)).run first.state
    let whole := (run (terminated lines ++ rest)).run s
    first.value = .ok () ∧ whole.value = next.value ∧
      output whole.trace = output first.trace ++ output next.trace ∧
      requests whole.trace = requests first.trace ++ requests next.trace := by
  intro first next whole
  let mid := (unclosed lines).run s
  let others := (runLines (splitLines rest)).run mid.state
  obtain ⟨n, firstRun⟩ : ∃ n, first =
      ⟨.ok (), mid.state.withNotifier n, mid.trace ++ [.shown (.notification none)]⟩ :=
    run_terminated h s
  -- within the whole run the notification of the last line is still on view
  obtain ⟨n', same⟩ := heedless_runLines (splitLines rest) mid.state n
  have nextRun : next = ⟨others.value, others.state.withNotifier n', others.trace⟩ := by
    simp only [next]
    rw [firstRun]
    exact same
  have wholeRun : whole =
      ⟨others.value, ((closing others.value).run others.state).state,
        mid.trace ++ (others.trace ++ ((closing others.value).run others.state).trace)⟩ := by
    simp only [whole, run_terminated_append h]
    rw [Traced.run_bind, Traced.run_bind, closing_value]
  obtain ⟨silent, still⟩ := closing_trace others.value others.state
  refine ⟨?_, ?_, ?_, ?_⟩
  · rw [firstRun]
  · rw [wholeRun, nextRun]
  · rw [wholeRun, firstRun, nextRun, output_append_hide, output_append, output_append, silent,
      String.append_empty]
  · rw [wholeRun, firstRun, nextRun, requests_append_hide, Session.requests_append,
      Session.requests_append, still, List.append_nil]

/-- The first line that is no text ends the run. -/
lemma run_of_not_isText {lines : List (List UInt8)} (h : ∀ line ∈ lines, Passes line)
    {line : List UInt8} (hline : 10 ∉ line) (stray : ¬ IsText line) {rest : List UInt8}
    (ends : rest = [] ∨ rest.head? = some 10) (s : Session) :
    let first := (run (terminated lines)).run s
    let whole := (run (terminated lines ++ (line ++ rest))).run s
    whole.value = .error ⟨⟩ ∧ (∃ n, first.state = whole.state.withNotifier n) ∧
      first.trace = whole.trace ++ [.shown (.notification none)] := by
  intro first whole
  let mid := (unclosed lines).run s
  obtain ⟨n, firstRun⟩ : ∃ n, first =
      ⟨.ok (), mid.state.withNotifier n, mid.trace ++ [.shown (.notification none)]⟩ :=
    run_terminated h s
  obtain ⟨more, split⟩ := splitLines_append hline (ne_nil_of_not_isText stray) ends
  have wholeRun : whole = ⟨.error ⟨⟩, mid.state, mid.trace⟩ := by
    simp only [whole]
    rw [run_terminated_append h, split, runLines_of_not_isText stray, pure_bind, Traced.run_bind,
      closing, Traced.run_pure, List.append_nil]
  rw [wholeRun, firstRun]
  exact ⟨rfl, ⟨n, rfl⟩, rfl⟩

/-- The lines of an input are carried out from left to right, each of them as the command that it
asks for. Behind lines that pass it goes on with what follows, in the session that a run on these
lines leaves: it prints what that run prints and then what the others print, sends what that run
sends and then what the others send, and ends as they end. What stands behind a line that asks to
leave does not matter. At the first line that is no text it fails, with the effects of the lines in
front of it and no others; only the notification is not taken from view. With carriage returns in
front of the line feeds all is the same, and so it is with a line feed behind the last line. -/
theorem run_by_lines (s : Session) :
    (∀ lines last, (∀ line ∈ lines, 10 ∉ line) → 10 ∉ last →
      splitLines (terminated lines ++ last) = lines ++ if last = [] then [] else [last]) ∧
    (∀ line c, command? line = some c → c ≠ .quit → ∀ rest,
      runLines (line :: rest) = dispatch c >>= fun _ => runLines rest) ∧
    (∀ lines rest, (∀ line ∈ lines, Passes line) →
      let first := (run (terminated lines)).run s
      let next := (runLines (splitLines rest)).run first.state
      let whole := (run (terminated lines ++ rest)).run s
      first.value = .ok () ∧ whole.value = next.value ∧
        output whole.trace = output first.trace ++ output next.trace ∧
        requests whole.trace = requests first.trace ++ requests next.trace) ∧
    (∀ lines line rest, (∀ line ∈ lines, 10 ∉ line) → 10 ∉ line → leaves line = true →
      run (terminated lines ++ (line ++ 10 :: rest)) = run (terminated lines ++ line)) ∧
    (∀ lines line rest, (∀ line ∈ lines, Passes line) → 10 ∉ line → ¬ IsText line →
      rest = [] ∨ rest.head? = some 10 →
      let first := (run (terminated lines)).run s
      let whole := (run (terminated lines ++ (line ++ rest))).run s
      whole.value = .error ⟨⟩ ∧ (∃ n, first.state = whole.state.withNotifier n) ∧
        first.trace = whole.trace ++ [.shown (.notification none)]) ∧
    ∀ input, run (crlf input) = run input ∧ run (input ++ [10]) = run input := by
  refine ⟨fun lines last hlines hlast => ?_, fun _ _ => runLines_cons_of_asks,
    fun lines rest passes => ?_, fun lines line rest hlines hline quits => ?_,
    fun lines line rest passes hline stray ends => ?_,
    fun input => ⟨run_crlf input, run_append_lf input⟩⟩
  · rw [splitLines_terminated hlines, splitLines_of_not_mem hlast]
  · exact run_terminated_append_eq passes rest s
  · exact run_of_leaves hlines hline quits rest
  · exact run_of_not_isText passes hline stray ends s

/-- A byte that is no text makes a run fail in front of the line that asks to leave, but not behind
it. -/
theorem run_by_lines_of_stray_byte :
    let base : Url :=
      ⟨"http", some ⟨"", none, "localhost", some 8080⟩, false, .segments [""], none, none⟩
    let s : Session := {
      server := ⟨base, rfl⟩, network := ⟨true, []⟩, notifier := { duration := 2500 } }
    let help : List UInt8 := [63]
    let quit : List UInt8 := [113]
    let stray : List UInt8 := [255]
    Passes help ∧ leaves quit = true ∧ ¬ IsText stray ∧
      ((run (terminated [help] ++ (stray ++ 10 :: quit))).run s).value = .error ⟨⟩ ∧
      run (terminated [help] ++ (quit ++ 10 :: stray)) = run (terminated [help] ++ quit) := by
  intro base s help quit stray
  have passes : Passes help := ⟨by decide, ⟨"?", rfl⟩, by decide⟩
  have quits : leaves quit = true := by decide
  have unread : ¬ IsText stray := by
    rw [← lineText?_isSome_iff]
    decide
  obtain ⟨-, -, -, stop, fail, -⟩ := run_by_lines s
  have failed := fail [help] stray (10 :: quit) (List.forall_mem_singleton.2 passes) (by decide)
    unread (.inr rfl)
  have stopped := stop [help] quit stray (List.forall_mem_singleton.2 passes.1) (by decide) quits
  exact ⟨passes, quits, unread, failed.1, stopped⟩

end Shortlink.Shell

import Mathlib.Data.List.Perm.Subperm
import Shortlink.Proofs.Arguments.Options

/-!
# Where options may stand

Options may stand in any order as long as they stand in front of the task. Behind the word of the
task none is taken: whichever of the options are moved there, to whatever place among the arguments
of the task, the command line is refused.
-/

namespace Shortlink.Arguments

variable {a b : Arguments} {word : String}

/-! ## The order of options -/

/-- Two options that can be set one after the other can be set the other way round. -/
lemma set_swap {c : Arguments} {f f' : Flag} {value value' : String}
    (h : a.set f value = .ok b) (h' : b.set f' value' = .ok c) :
    ∃ d, a.set f' value' = .ok d ∧ d.set f value = .ok c := by
  obtain ⟨free, put, puts, rfl⟩ := set_eq_ok_iff.1 h
  obtain ⟨free', put', puts', rfl⟩ := set_eq_ok_iff.1 h'
  rw [puts.isSet, Bool.or_eq_false_iff, beq_eq_false_iff_ne] at free'
  obtain ⟨other, free'⟩ := free'
  refine ⟨put' a, set_eq_ok_iff.2 ⟨free', put', puts', rfl⟩, set_eq_ok_iff.2 ⟨?_, put, puts, ?_⟩⟩
  · rw [puts'.isSet, free, Bool.or_false, beq_eq_false_iff_ne]
    exact other.symm
  · exact puts.comm puts' other a

/-- Options that can be set can be set in any order. -/
lemma setAll_of_perm {gs gs' : List Given} (perm : gs'.Perm gs) (h : setAll a gs = .ok b) :
    setAll a gs' = .ok b := by
  induction perm generalizing a with
  | nil => exact h
  | cons g _ ih =>
    rw [setAll_cons] at h ⊢
    obtain ⟨c, own, others⟩ := ok_of_bind_ok h
    rw [own]
    exact ih others
  | swap g g' gs =>
    rw [setAll_cons] at h
    obtain ⟨c, own, h⟩ := ok_of_bind_ok h
    rw [setAll_cons] at h
    obtain ⟨d, own', others⟩ := ok_of_bind_ok h
    obtain ⟨c', first, second⟩ := set_swap own own'
    rw [setAll_cons, first]
    show setAll c' (g :: gs) = _
    rw [setAll_cons, second]
    exact others
  | trans _ _ ih ih' => exact ih (ih' h)

/-- Of options that can be set any ones can be set alone. -/
lemma exists_setAll_of_subperm {gs gs' : List Given} (fewer : gs'.Subperm gs)
    (h : setAll a gs = .ok b) : ∃ c, setAll a gs' = .ok c := by
  obtain ⟨gs'', same, front⟩ := fewer
  obtain ⟨others, perm⟩ := front.exists_perm_append
  have all := setAll_of_perm ((same.symm.append_right others).trans perm.symm) h
  rw [setAll, List.foldlM_append] at all
  obtain ⟨c, front, -⟩ := ok_of_bind_ok all
  exact ⟨c, front⟩

/-! ## The arguments of a task -/

/-- An argument that looks like no option or stands behind a separator is taken if one is still
wanted. -/
lemma scanTask_argument {wanted sep : Bool} {value : Option String} {arg : String}
    (own : sep = true ∨ Form.of arg = .plain) (rest : List String) :
    scanTask wanted value sep (arg :: rest) =
      if wanted && value.isNone then scanTask wanted (some arg) sep rest
      else .error .unknownArgument := by
  rw [scanTask.eq_def]
  obtain rfl | plain := own
  · rfl
  · cases sep <;> simp [plain]

/-- An argument that is accepted leads to the same, whatever comes behind it. -/
lemma exists_scanTask {wanted sep : Bool} {value x : Option String} {arg : String}
    {rest : List String} (h : scanTask wanted value sep (arg :: rest) = .ok x) :
    ∃ value' sep', ∀ rest',
      scanTask wanted value sep (arg :: rest') = scanTask wanted value' sep' rest' := by
  by_cases own : sep = true ∨ Form.of arg = .plain
  · rw [scanTask_argument own] at h
    split at h
    · next free => exact ⟨some arg, sep, fun rest' => by rw [scanTask_argument own, if_pos free]⟩
    · cases h
  · obtain ⟨front, notPlain⟩ := not_or.1 own
    obtain rfl := Bool.eq_false_iff.2 front
    rw [scanTask.eq_def] at h
    cases form : Form.of arg with
    | separator =>
      refine ⟨value, true, fun rest' => ?_⟩
      rw [scanTask.eq_def]
      simp [form]
    | plain => exact absurd form notPlain
    | long name value? =>
      by_cases help : name = "help"
      · cases value? <;> simp [form, help] at h
      · simp [form, help] at h
    | short letter => simp [form] at h

/-- What looks like an option is not taken in front of a separator. -/
lemma scanTask_option {wanted : Bool} {value value? : Option String} {arg : String} {f : Flag}
    (form : Form.of arg = .long f.name value?) (rest : List String) :
    scanTask wanted value false (arg :: rest) = .error .unknownArgument := by
  rw [scanTask.eq_def]
  simp only [form]
  cases f <;> rfl

/-- An option begins with an argument that looks like one. -/
lemma Given.exists_cons (g : Given) :
    ∃ arg rest value?, g.args = arg :: rest ∧ Form.of arg = .long g.flag.name value? := by
  obtain ⟨f, value, _ | _, plain⟩ := g
  · exact ⟨_, _, _, rfl, form_alone f⟩
  · exact ⟨_, _, _, rfl, form_joined f value⟩

/-- Among the arguments of a task no option is taken, wherever it is put. The induction is on the
arguments in front of it, each of which is read as it was. -/
lemma scanTask_inserted {wanted sep : Bool} {value x : Option String} (g : Given)
    {before after behind : List String}
    (accepted : scanTask wanted value sep (before ++ after) = .ok x)
    (more : after.Sublist behind) :
    scanTask wanted value sep (before ++ (g.args ++ behind)) = .error .unknownArgument := by
  induction before generalizing value sep with
  | nil =>
    obtain ⟨arg, rest, value?, same, form⟩ := g.exists_cons
    rw [List.nil_append, same, List.cons_append]
    cases sep with
    | false => exact scanTask_option form _
    | true =>
      rw [scanTask_argument (.inl rfl)]
      split
      · next free =>
        -- the option is taken for the argument, so there is one argument too many behind it
        have full : rest ++ behind ≠ [] := by
          intro empty
          obtain rfl := (List.append_eq_nil_iff.1 empty).2
          obtain rfl := List.sublist_nil.1 more
          rw [List.nil_append, scanTask, if_pos free] at accepted
          cases accepted
        obtain ⟨arg', rest', same'⟩ := List.exists_cons_of_ne_nil full
        rw [same', scanTask_argument (.inl rfl)]
        simp
      · rfl
  | cons arg before ih =>
    obtain ⟨value', sep', leads⟩ := exists_scanTask accepted
    rw [List.cons_append, leads] at accepted ⊢
    exact ih accepted

/-- An option among the arguments of a task is an unknown argument. -/
lemma task?_inserted {before after behind : List String} {task : Task} (g : Given)
    (taken : task? word (before ++ after) = .ok task) (more : after.Sublist behind) :
    task? word (before ++ (g.args ++ behind)) = .error .unknownArgument := by
  rw [task?] at taken
  obtain ⟨value, accepted, -⟩ := ok_of_bind_ok taken
  rw [task?, scanTask_inserted g accepted more]
  rfl

/-! ## Command lines -/

/-- A command line that asks for a task has its options in front of the task, where they may stand
in any order. It is refused as soon as one of them is moved behind the word of the task, to whatever
place, whichever of the others are still in front and whatever else comes behind it. -/
theorem options_in_front {args : List String} (accepted : parse args = .ok a)
    (asked : a.task ≠ none) :
    (∃ gs word rest, args = spelled gs ++ word :: rest ∧ IsTask word) ∧
      ∀ gs word rest, args = spelled gs ++ word :: rest → IsTask word →
        (∀ gs', gs'.Perm gs → parse (spelled gs' ++ word :: rest) = .ok a) ∧
        ∀ g kept before after behind, (g :: kept).Subperm gs → rest = before ++ after →
          after.Sublist behind →
          parse (spelled kept ++ word :: (before ++ (g.args ++ behind))) =
            .error .unknownArgument := by
  constructor
  · exact exists_spelled accepted trivial asked
  · rintro gs word rest rfl task
    obtain ⟨b, set⟩ := setAll_of_scan (p := none) trivial task accepted
    have comes : parse (spelled gs ++ word :: rest) = _ := scan_spelled (p := none) trivial task set
    rw [accepted] at comes
    refine ⟨fun gs' perm => ?_, ?_⟩
    · have set' := setAll_of_perm perm set
      rw [comes]
      exact scan_spelled (p := none) trivial task set'
    · rintro g kept before after behind fewer rfl more
      have kept' := (List.sublist_cons_self g kept).subperm.trans fewer
      obtain ⟨c, set'⟩ := exists_setAll_of_subperm kept' set
      obtain ⟨_, taken, -⟩ := ok_of_map_ok comes.symm
      have front : parse (spelled kept ++ word :: (before ++ (g.args ++ behind))) = _ :=
        scan_spelled (p := none) trivial task set'
      rw [task?_inserted g taken more] at front
      exact front

/-- An option with its value, behind a task and its argument. -/
theorem options_in_front_of_shorten :
    parse ["--notify-ms", "5", "--server-url=http://a:1", "shorten", "u"] =
        .ok ⟨⟨some "http://a:1", some 5, none⟩, none, some (.shorten "u")⟩ ∧
      parse ["--server-url=http://a:1", "--notify-ms", "5", "shorten", "u"] =
        .ok ⟨⟨some "http://a:1", some 5, none⟩, none, some (.shorten "u")⟩ ∧
      parse ["--server-url=http://a:1", "shorten", "u", "--notify-ms", "5"] =
        .error .unknownArgument := by
  let notifyMs : Given := ⟨.notifyMs, "5", false, fun _ => by decide⟩
  let serverUrl : Given := ⟨.serverUrl, "http://a:1", true, nofun⟩
  have accepted : parse ["--notify-ms", "5", "--server-url=http://a:1", "shorten", "u"] =
      .ok ⟨⟨some "http://a:1", some 5, none⟩, none, some (.shorten "u")⟩ := by decide +kernel
  have task : IsTask "shorten" := by simp [IsTask, taskWords]
  obtain ⟨reordered, moved⟩ := (options_in_front accepted (by simp)).2 [notifyMs, serverUrl]
    "shorten" ["u"] (by decide +kernel) task
  have swapped := reordered [serverUrl, notifyMs] (.swap _ _ _)
  have refused := moved notifyMs [serverUrl] ["u"] [] [] (.refl _) rfl (.refl _)
  exact ⟨accepted, swapped, refused⟩

/-- An option behind the task is refused, in both forms. -/
theorem option_behind_count :
    parse ["--server-url", "http://a:1", "count"] =
        .ok ⟨⟨some "http://a:1", none, none⟩, none, some .count⟩ ∧
      parse ["count", "--server-url", "http://a:1"] = .error .unknownArgument ∧
      parse ["count", "--server-url=http://a:1"] = .error .unknownArgument := by
  decide +kernel

end Shortlink.Arguments

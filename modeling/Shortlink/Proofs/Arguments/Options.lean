import Mathlib.Data.List.Basic
import Shortlink.Arguments
import Shortlink.Proofs.Outcome

/-!
# Options on a command line

An option is given with its value behind an equals sign or as the next argument. Every command line
that asks for a task consists of options, the word of the task, and what comes behind this word; it
comes to what the options are set to, one after the other, and to what the task is read as.
-/

namespace Shortlink

/-- The name of an option, without the dashes. -/
def Flag.name : Flag → String
  | .serverUrl => "server-url"
  | .notifyMs => "notify-ms"
  | .timeoutSecs => "timeout-secs"
  | .config => "config"

namespace Arguments

/-- An option as it is given. A value that is an argument of its own does not look like an
option. -/
structure Given where
  flag : Flag
  value : String
  joined : Bool
  plain : joined = false → Form.of value = .plain

/-- The arguments that an option is given by. -/
def Given.args (g : Given) : List String :=
  match g.joined with
  | true => ["--" ++ g.flag.name ++ "=" ++ g.value]
  | false => ["--" ++ g.flag.name, g.value]

/-- The arguments of options one after the other. -/
def spelled (gs : List Given) : List String := gs.flatMap Given.args

/-- Options are spelled one behind the other. -/
lemma spelled_append (gs gs' : List Given) : spelled (gs ++ gs') = spelled gs ++ spelled gs' :=
  List.flatMap_append

/-- A word names a task. -/
def IsTask (word : String) : Prop := word ∈ taskWords.map (·.1)

variable {a a' b : Arguments} {p : Pending} {f : Flag} {arg word : String} {rest : List String}

/-! ## Setting options -/

/-- An option has a value already. -/
def isSet (a : Arguments) : Flag → Bool
  | .serverUrl => a.settings.serverUrl.isSome
  | .notifyMs => a.settings.notifyMs.isSome
  | .timeoutSecs => a.settings.timeoutSecs.isSome
  | .config => a.config.isSome

/-- What becomes of a command line when an option gets a value that it takes. -/
inductive Puts : Flag → String → (Arguments → Arguments) → Prop
  | serverUrl {value : String} :
    Puts .serverUrl value fun a => { a with settings.serverUrl := some value }
  | notifyMs {value : String} {n : UInt64} : Layer.readNumber value.toList = some n →
    Puts .notifyMs value fun a => { a with settings.notifyMs := some n }
  | timeoutSecs {value : String} {n : UInt64} : Layer.readNumber value.toList = some n →
    Puts .timeoutSecs value fun a => { a with settings.timeoutSecs := some n }
  | config {value : String} : value.isEmpty = false →
    Puts .config value fun a => { a with config := some value }

namespace Puts

variable {value value' : String} {put put' : Arguments → Arguments}

/-- An option that gets a value has one then, and no other one changes. -/
lemma isSet (h : Puts f value put) (a : Arguments) (f' : Flag) :
    (put a).isSet f' = (f == f' || a.isSet f') := by
  cases h <;> cases f' <;> rfl

/-- The task stays when an option gets a value. -/
lemma task (h : Puts f value put) (a : Arguments) : (put a).task = a.task := by
  cases h <;> rfl

/-- Different options are kept in different places. -/
lemma comm {f' : Flag} (h : Puts f value put) (h' : Puts f' value' put') (other : f ≠ f')
    (a : Arguments) : put' (put a) = put (put' a) := by
  cases h <;> cases h' <;> first | rfl | contradiction

end Puts

/-- An option takes a number exactly if its text is one. -/
lemma number_eq_ok_iff {value : String} {n : UInt64} :
    number value = .ok n ↔ Layer.readNumber value.toList = some n := by
  rw [number]
  cases Layer.readNumber value.toList <;> simp

/-- An option that has a value takes no other one. -/
lemma set_of_isSet {value : String} (held : a.isSet f = true) :
    a.set f value = .error .repeatedOption := by
  cases f <;> exact if_pos held

/-- An option without a value takes one that it can have. -/
lemma set_of_puts {value : String} {put : Arguments → Arguments} (free : a.isSet f = false)
    (puts : Puts f value put) : a.set f value = .ok (put a) := by
  have free := Bool.eq_false_iff.1 free
  cases puts with
  | serverUrl => exact if_neg free
  | notifyMs read => exact (if_neg free).trans (by rw [number_eq_ok_iff.2 read]; rfl)
  | timeoutSecs read => exact (if_neg free).trans (by rw [number_eq_ok_iff.2 read]; rfl)
  | config full => exact (if_neg free).trans (if_neg (Bool.eq_false_iff.1 full))

/-- An option that took a value could have it. -/
lemma exists_puts {value : String} (free : a.isSet f = false) (h : a.set f value = .ok b) :
    ∃ put, Puts f value put ∧ b = put a := by
  have free := Bool.eq_false_iff.1 free
  cases f with
  | serverUrl =>
    cases (if_neg free).symm.trans h
    exact ⟨_, .serverUrl, rfl⟩
  | notifyMs =>
    obtain ⟨n, read, same⟩ := ok_of_bind_ok ((if_neg free).symm.trans h)
    cases same
    exact ⟨_, .notifyMs (number_eq_ok_iff.1 read), rfl⟩
  | timeoutSecs =>
    obtain ⟨n, read, same⟩ := ok_of_bind_ok ((if_neg free).symm.trans h)
    cases same
    exact ⟨_, .timeoutSecs (number_eq_ok_iff.1 read), rfl⟩
  | config =>
    have h := (if_neg free).symm.trans h
    cases full : value.isEmpty with
    | true =>
      rw [full] at h
      cases h
    | false =>
      rw [full] at h
      cases h
      exact ⟨_, .config full, rfl⟩

/-- An option is set once, to a value that it takes. -/
lemma set_eq_ok_iff {value : String} :
    a.set f value = .ok b ↔ a.isSet f = false ∧ ∃ put, Puts f value put ∧ b = put a := by
  constructor
  · intro h
    cases free : a.isSet f with
    | true =>
      rw [set_of_isSet free] at h
      cases h
    | false => exact ⟨rfl, exists_puts free h⟩
  · rintro ⟨free, put, puts, rfl⟩
    exact set_of_puts free puts

/-! ## Forms -/

/-- An option goes by its name alone. -/
lemma flag?_eq_some_iff {name : String} : flag? name = some f ↔ name = f.name := by
  constructor
  · fun_cases flag? name <;> rintro ⟨⟩ <;> rfl
  · rintro rfl
    cases f <;> rfl

/-- The name of an option behind two dashes has the form of an option. -/
lemma form_alone (f : Flag) : Form.of ("--" ++ f.name) = .long f.name none := by
  cases f <;> decide

/-- The name of an option may have its value behind the sign of equality. -/
lemma form_joined (f : Flag) (value : String) :
    Form.of ("--" ++ f.name ++ "=" ++ value) = .long f.name (some value) := by
  rw [Form.of, String.toList_append]
  cases f <;> simp [Flag.name]

/-- An argument that looks like an option is spelled so. -/
lemma eq_of_form {name : String} {value? : Option String} (h : Form.of arg = .long name value?) :
    arg = "--" ++ name ++ (value?.map ("=" ++ ·)).getD "" := by
  rw [Form.of] at h
  split at h
  · cases h
  · next cs _ spelling =>
    have whole := List.takeWhile_append_dropWhile (p := (· != '=')) (l := cs)
    split at h
    · next sign value split =>
      cases h
      have first := List.head?_dropWhile_not (· != '=') cs
      rw [split] at first whole
      obtain rfl : sign = '=' := by simpa using first
      rw [← String.toList_inj]
      simp [spelling, whole]
    · next split =>
      cases h
      rw [split, List.append_nil] at whole
      rw [← String.toList_inj]
      simp [spelling, whole]
  · cases h
  · cases h

/-- The word for help is read like those of the tasks. -/
lemma isTaskWord_iff : isTaskWord word = true ↔ word = "help" ∨ IsTask word := by
  simp [isTaskWord, IsTask, List.any_eq_true, List.mem_map]

/-- The words that name a task do not look like options. -/
lemma plain_of_isTaskWord (h : isTaskWord word = true) : Form.of word = .plain := by
  have plain : ∀ word ∈ "help" :: taskWords.map (·.1), Form.of word = .plain := by decide
  exact plain word (List.mem_cons.2 (isTaskWord_iff.1 h))

/-! ## One argument -/

/-- The value of an option that is not set yet is known. -/
def Pending.IsKnown : Pending → Prop
  | some (_, none) => False
  | _ => True

/-- The value is known exactly if it is not missing. -/
lemma Pending.isKnown_iff : p.IsKnown ↔ p.any (·.2.isNone) = false := by
  obtain _ | ⟨f, _ | value⟩ := p
  · exact iff_of_true trivial rfl
  · exact iff_of_false id nofun
  · exact iff_of_true trivial rfl

/-- At the word of a task the options end, and all that follows is the task. -/
lemma scan_task (known : p.IsKnown) (task : IsTask word) (rest : List String) :
    scan a p false (word :: rest) = do
      let task ← task? word rest
      return { ← a.settle p with task := some task } := by
  have word' : isTaskWord word = true := isTaskWord_iff.2 (.inr task)
  have notHelp : word ≠ "help" := by
    rintro rfl
    simp [IsTask, taskWords] at task
  rw [scan.eq_def]
  simp [Pending.isKnown_iff.1 known, word', notHelp]

/-- At the next option the one in front of it is set. -/
lemma scan_option {value? : Option String} (form : Form.of arg = .long f.name value?)
    (rest : List String) :
    scan a p false (arg :: rest) =
      a.settle p >>= fun a =>
        match value? with
        | none => scan a (some (f, none)) false rest
        | some value => a.set f value >>= fun a => scan a none false rest := by
  have notTask : isTaskWord arg = false := by
    by_contra task
    have plain := plain_of_isTaskWord (Bool.not_eq_false _ ▸ task)
    rw [form] at plain
    cases plain
  rw [scan.eq_def]
  simp only [notTask, form, Bool.and_false, Bool.false_eq_true, if_false]
  cases f <;> cases value? <;> rfl

/-- What does not look like an option is the value of the one in front. -/
lemma scan_value (plain : Form.of arg = .plain) (rest : List String) :
    scan a (some (f, none)) false (arg :: rest) = scan a (some (f, some arg)) false rest := by
  rw [scan.eq_def]
  simp [plain]

/-! ## Options in front of a task -/

/-- The options are set one after the other. -/
def setAll (a : Arguments) (gs : List Given) : Except UsageError Arguments :=
  gs.foldlM (fun a g => a.set g.flag g.value) a

/-- The first of the options is set first. -/
lemma setAll_cons (a : Arguments) (g : Given) (gs : List Given) :
    setAll a (g :: gs) = a.set g.flag g.value >>= (setAll · gs) := rfl

/-- An option that is given is set, at once or with what comes behind it. -/
lemma scan_given (g : Given) (rest : List String) :
    scan a p false (g.args ++ rest) =
      a.settle p >>= fun a =>
        match g.joined with
        | true => a.set g.flag g.value >>= fun a => scan a none false rest
        | false => scan a (some (g.flag, some g.value)) false rest := by
  obtain ⟨f, value, _ | _, plain⟩ := g
  · show scan a p false (("--" ++ f.name) :: value :: rest) = _
    rw [scan_option (form_alone f)]
    simp only [scan_value (plain rfl)]
  · exact scan_option (form_joined f value) rest

/-- Where the options can be set, a command line that begins with them comes to what its task comes
to. -/
lemma scan_spelled (known : p.IsKnown) (task : IsTask word) {gs : List Given}
    (set : (a.settle p >>= (setAll · gs)) = .ok a') :
    scan a p false (spelled gs ++ word :: rest) =
      (task? word rest).map fun task => { a' with task := some task } := by
  induction gs generalizing a p with
  | nil =>
    obtain ⟨b, settled, same⟩ := ok_of_bind_ok set
    cases same
    show scan a p false (word :: rest) = _
    rw [scan_task known task, settled]
    cases task? word rest <;> rfl
  | cons g gs ih =>
    obtain ⟨b, settled, set⟩ := ok_of_bind_ok set
    show scan a p false (g.args ++ spelled gs ++ word :: rest) = _
    rw [List.append_assoc, scan_given, settled]
    rw [setAll_cons] at set
    obtain ⟨c, own, others⟩ := ok_of_bind_ok set
    show (match g.joined with | true => _ | false => _) = _
    cases g.joined with
    | true =>
      simp only [own]
      exact ih trivial others
    | false =>
      refine ih trivial ?_
      rw [settle, own]
      exact others

/-- The options at the front of a command line that is accepted can be set. -/
lemma setAll_of_scan (known : p.IsKnown) (task : IsTask word) {gs : List Given}
    (accepted : scan a p false (spelled gs ++ word :: rest) = .ok b) :
    ∃ a', (a.settle p >>= (setAll · gs)) = .ok a' := by
  induction gs generalizing a p with
  | nil =>
    have found : scan a p false (word :: rest) = .ok b := accepted
    rw [scan_task known task] at found
    obtain ⟨_, -, found⟩ := ok_of_bind_ok found
    obtain ⟨a', settled, -⟩ := ok_of_bind_ok found
    exact ⟨a', by rw [settled]; rfl⟩
  | cons g gs ih =>
    have found : scan a p false (g.args ++ spelled gs ++ word :: rest) = .ok b := accepted
    rw [List.append_assoc, scan_given] at found
    obtain ⟨c, settled, found⟩ := ok_of_bind_ok found
    rw [settled]
    show ∃ a', setAll c (g :: gs) = .ok a'
    rw [setAll_cons]
    cases joined : g.joined with
    | true =>
      simp only [joined] at found
      obtain ⟨d, own, found⟩ := ok_of_bind_ok found
      rw [own]
      exact ih (p := none) trivial found
    | false =>
      simp only [joined] at found
      exact ih (p := some (g.flag, some g.value)) trivial found

/-! ## The parts of a command line -/

/-- The arguments of an option that is not set yet. -/
def Pending.args : Pending → List String
  | none => []
  | some (f, none) => ["--" ++ f.name]
  | some (f, some value) => ["--" ++ f.name, value]

/-- The value of an option that is not set yet, if it is known, does not look like an option. -/
def Pending.IsPlain : Pending → Prop
  | some (_, some value) => Form.of value = .plain
  | _ => True

/-- Setting an option leaves the task as it is. -/
lemma set_task {value : String} (h : a.set f value = .ok b) : b.task = a.task := by
  obtain ⟨-, put, puts, rfl⟩ := set_eq_ok_iff.1 h
  exact puts.task a

/-- Setting the option in front leaves the task as it is. -/
lemma settle_task (h : a.settle p = .ok b) : b.task = a.task := by
  obtain _ | ⟨f, _ | value⟩ := p
  · cases h
    rfl
  · cases h
  · exact set_task h

/-- Behind a separator no task is taken. -/
lemma task_of_scan_behind {args : List String} (h : scan a p true args = .ok b) :
    b.task = a.task := by
  cases args with
  | nil => exact settle_task h
  | cons arg rest => cases h

/-- What the first argument of a command line that asks for a task can be. -/
inductive Scans (a : Arguments) (p : Pending) (arg : String) (rest : List String)
    (b : Arguments) : Prop
  | task : p.IsKnown → IsTask arg → Scans a p arg rest b
  | alone {f : Flag} {a' : Arguments} : arg = "--" ++ f.name → a.settle p = .ok a' →
    scan a' (some (f, none)) false rest = .ok b → Scans a p arg rest b
  | joined {f : Flag} {value : String} {a' a'' : Arguments} :
    arg = "--" ++ f.name ++ "=" ++ value → a.settle p = .ok a' → a'.set f value = .ok a'' →
    scan a'' none false rest = .ok b → Scans a p arg rest b
  | value {f : Flag} : p = some (f, none) → Form.of arg = .plain →
    scan a (some (f, some arg)) false rest = .ok b → Scans a p arg rest b

/-- A command line that asks for a task begins with the task or with an option. -/
lemma scan_inv (h : scan a p false (arg :: rest) = .ok b) (asked : b.task ≠ a.task) :
    Scans a p arg rest b := by
  rw [scan.eq_def] at h
  simp only [Bool.false_eq_true, if_false] at h
  split at h
  · next word =>
    rw [Bool.and_eq_true, Bool.not_eq_true'] at word
    split at h
    · cases h
    · next notHelp =>
      have task := (isTaskWord_iff.1 word.2).resolve_left notHelp
      exact .task (Pending.isKnown_iff.2 word.1) task
  · next notTask =>
    clear notTask
    split at h
    -- a separator
    · exact absurd (task_of_scan_behind h) asked
    -- help, without a value and with one
    · obtain ⟨_, -, h⟩ := ok_of_bind_ok h
      cases h
    · cases h
    · next name value? _ _ form =>
      have spelling := eq_of_form form
      split at h
      · cases h
      · next f named =>
        obtain rfl := flag?_eq_some_iff.1 named
        obtain ⟨a', settled, h⟩ := ok_of_bind_ok h
        cases value? with
        | none => exact .alone (spelling.trans String.append_empty) settled h
        | some value =>
          obtain ⟨a'', set, h⟩ := ok_of_bind_ok h
          exact .joined (spelling.trans String.append_assoc.symm) settled set h
    · next letter _ form =>
      split at h
      · obtain ⟨_, -, h⟩ := ok_of_bind_ok h
        cases h
      · cases h
    · next f form => exact .value rfl form h
    · cases h

/-- The option that is not set yet, if there is one, with the value that it has. -/
lemma Pending.exists_given (plain : p.IsPlain) (known : p.IsKnown) :
    ∃ gs, p.args = spelled gs := by
  obtain _ | ⟨f, _ | value⟩ := p
  · exact ⟨[], rfl⟩
  · exact known.elim
  · exact ⟨[⟨f, value, false, fun _ => plain⟩], rfl⟩

/-- Only an option whose value is known is set. -/
lemma isKnown_of_settle (h : a.settle p = .ok b) : p.IsKnown := by
  obtain _ | ⟨f, _ | value⟩ := p
  · trivial
  · cases h
  · trivial

/-- A command line that asks for a task consists of options, the word of the task, and what comes
behind it. The option that is not set yet belongs to the front, so what the induction takes apart
are its arguments and those that are still to come. -/
lemma exists_spelled {args : List String} (h : scan a p false args = .ok b) (plain : p.IsPlain)
    (asked : b.task ≠ a.task) :
    ∃ gs word rest, p.args ++ args = spelled gs ++ word :: rest ∧ IsTask word := by
  induction args generalizing a p with
  | nil => exact absurd (settle_task h) asked
  | cons arg rest ih =>
    cases scan_inv h asked with
    | task known task =>
      obtain ⟨gs, front⟩ := Pending.exists_given plain known
      exact ⟨gs, arg, rest, by rw [front], task⟩
    | @alone f a' spelling settled h =>
      obtain ⟨gs, front⟩ := Pending.exists_given plain (isKnown_of_settle settled)
      obtain ⟨gs', word, rest', same, task⟩ := ih h trivial (settle_task settled ▸ asked)
      refine ⟨gs ++ gs', word, rest', ?_, task⟩
      rw [front, spelled_append, List.append_assoc, ← same, spelling]
      rfl
    | @joined f value a' a'' spelling settled set h =>
      obtain ⟨gs, front⟩ := Pending.exists_given plain (isKnown_of_settle settled)
      have asked := set_task set ▸ settle_task settled ▸ asked
      obtain ⟨gs', word, rest', same, task⟩ := ih h trivial asked
      refine ⟨gs ++ ⟨f, value, true, nofun⟩ :: gs', word, rest', ?_, task⟩
      rw [front, spelled_append, List.append_assoc, spelling]
      exact congrArg (spelled gs ++ _ :: ·) same
    | value open' form h =>
      rw [open']
      exact ih h form asked

end Arguments

end Shortlink

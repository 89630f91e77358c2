import Shortlink.Proofs.Program.ExitCode
import Shortlink.Proofs.Settings.Layers

/-!
# The start of a run

A run starts with settings from four sources: the command line comes before the environment, the
environment before the configuration file, and the file before the defaults. It is refused for one
of four reasons, which are looked for in turn: the command line, a file that is asked for and not
there, a file that is not as it must be, and a server URL below which nothing can be put. A run that
is refused shows nothing and sends nothing.
-/

namespace Shortlink

/-- The value of a setting with what the command line supplies, the environment, and the text of the
configuration file if there is one. -/
inductive Setting.Chosen {α : Type} (x : Setting α) (flags : Layer) (env : String → Option String)
    (file? : Option String) : α → Prop
  | flag {v} : x.supplied flags = some v → Chosen x flags env file? v
  | environment {v} :
    x.supplied flags = none → x.Supplies (.environment env) v → Chosen x flags env file? v
  | file {text v} :
    x.supplied flags = none → (∀ w, ¬ x.Supplies (.environment env) w) →
    file? = some text → x.Supplies (.file text) v → Chosen x flags env file? v
  | default :
    x.supplied flags = none → (∀ w, ¬ x.Supplies (.environment env) w) →
    (∀ text ∈ file?, ∀ w, ¬ x.Supplies (.file text) w) → Chosen x flags env file? (x.get {})

/-- A URL below which something can be put. -/
def CanBeBase [Url.DomainRules] (url : String) : Prop :=
  ∃ base, Url.parse (Text.trim url) = .ok base ∧ base.isUnstructured = false

namespace Arguments

/-- The name of the configuration file: the one that is asked for, or else the usual one. -/
def file (a : Arguments) : String :=
  match a.config with
  | some name => name
  | none => "shortener.toml"

end Arguments

namespace Surroundings

/-- The configuration file can be used. Only one that is asked for has to be there. -/
inductive Loads (s : Surroundings) (a : Arguments) : Prop
  | read {text l} : s.files a.file = some text → Layer.ofFile text = .ok l → Loads s a
  | absent : s.files a.file = none → a.config = none → Loads s a

/-- Each setting is the one that is chosen for it. -/
structure Chooses (s : Surroundings) (a : Arguments) (t : Settings) : Prop where
  serverUrl : Setting.serverUrl.Chosen a.settings s.env (s.files a.file) t.serverUrl
  notifyMs : Setting.notifyMs.Chosen a.settings s.env (s.files a.file) t.notifyMs
  timeoutSecs : Setting.timeoutSecs.Chosen a.settings s.env (s.files a.file) t.timeoutSecs

/-- A run that is refused, and what comes of it. -/
inductive Refused [Url.DomainRules] (s : Surroundings) : Run → Prop
  | help : Arguments.parse s.args = .error .help → Refused s ⟨0, [], none⟩
  | usage {e} : Arguments.parse s.args = .error e → e ≠ .help → Refused s ⟨2, [], none⟩
  | unreadable {a name} :
    Arguments.parse s.args = .ok a → a.config = some name → s.files name = none →
    Refused s ⟨1, [], some ("failed to read " ++ name)⟩
  | invalid {a text e} :
    Arguments.parse s.args = .ok a → s.files a.file = some text → Layer.ofFile text = .error e →
    Refused s ⟨1, [], some ("failed to parse " ++ a.file)⟩
  | server {a url} :
    Arguments.parse s.args = .ok a → s.Loads a →
    Setting.serverUrl.Chosen a.settings s.env (s.files a.file) url → ¬ CanBeBase url →
    Refused s ⟨1, [], some "failed to set up the server client"⟩

end Surroundings

/-! ## Settings -/

namespace Setting

variable {α : Type} (x : Setting α) {flags : Layer} {env : String → Option String}
  {file? : Option String}

/-- The sources are asked in turn. -/
lemma chosen_iff {v : α} :
    x.Chosen flags env file? v ↔
      (x.supplied flags).getD ((x.suppliedBy? (.environment env)).getD
        ((file?.bind fun text => x.suppliedBy? (.file text)).getD (x.get {}))) = v := by
  constructor
  · rintro (flag | ⟨unflagged, supplied⟩ | ⟨unflagged, unset, there, supplied⟩ |
      ⟨unflagged, unset, silent⟩)
    · rw [flag]
      rfl
    · rw [unflagged, x.suppliedBy?_eq_some_iff.2 supplied]
      rfl
    · rw [unflagged, x.suppliedBy?_eq_none_iff.2 unset, there, Option.bind_some,
        x.suppliedBy?_eq_some_iff.2 supplied]
      rfl
    · have nothing : (file?.bind fun text => x.suppliedBy? (.file text)) = none :=
        Option.bind_eq_none_iff.2 fun text there => x.suppliedBy?_eq_none_iff.2 (silent text there)
      rw [unflagged, x.suppliedBy?_eq_none_iff.2 unset, nothing]
      rfl
  · rintro rfl
    cases flag : x.supplied flags with
    | some v => exact .flag flag
    | none =>
      cases held : x.suppliedBy? (.environment env) with
      | some v => exact .environment flag (x.suppliedBy?_eq_some_iff.1 held)
      | none =>
        have unset := x.suppliedBy?_eq_none_iff.1 held
        cases file : file?.bind fun text => x.suppliedBy? (.file text) with
        | some v =>
          obtain ⟨text, there, supplied⟩ := Option.bind_eq_some_iff.1 file
          exact .file flag unset there (x.suppliedBy?_eq_some_iff.1 supplied)
        | none =>
          refine .default flag unset fun text there => ?_
          exact x.suppliedBy?_eq_none_iff.1 (Option.bind_eq_none_iff.1 file text there)

end Setting

namespace Program

variable {s : Surroundings} {a : Arguments}

/-- The settings that a run is given, if the configuration file can be used. -/
def layered (s : Surroundings) (a : Arguments) : Settings :=
  (Settings.after ((s.files a.file).toList.map .file ++ [.environment s.env])).overlay a.settings

/-- The value that is chosen for a setting is the one in the settings that a run is given. -/
lemma chosen_iff_get_layered {α : Type} (x : Setting α) {v : α} :
    x.Chosen a.settings s.env (s.files a.file) v ↔ x.get (layered s a) = v := by
  rw [x.chosen_iff, layered, x.get_overlay, Settings.after_append_singleton, x.get_take]
  cases s.files a.file with
  | none => rfl
  | some text =>
    rw [Option.toList_some, List.map_singleton, ← List.nil_append [_],
      Settings.after_append_singleton, x.get_take]
    rfl

/-- The settings that are chosen are those that a run is given. -/
lemma chooses_iff {t : Settings} : s.Chooses a t ↔ layered s a = t := by
  constructor
  · intro ⟨serverUrl, notifyMs, timeoutSecs⟩
    cases t
    exact congr (congr (congrArg Settings.mk ((chosen_iff_get_layered _).1 serverUrl))
      ((chosen_iff_get_layered _).1 notifyMs)) ((chosen_iff_get_layered _).1 timeoutSecs)
  · rintro rfl
    exact ⟨(chosen_iff_get_layered .serverUrl).2 rfl, (chosen_iff_get_layered .notifyMs).2 rfl,
      (chosen_iff_get_layered .timeoutSecs).2 rfl⟩

/-- What becomes of the configuration file decides whether there are settings. -/
lemma settings_eq (s : Surroundings) (a : Arguments) :
    settings s a =
      match s.files a.file, a.config with
      | some text, _ => ((Layer.ofFile text).map fun _ => layered s a).mapError (.invalid a.file)
      | none, some name => .error (.unreadable name)
      | none, none => .ok (layered s a) := by
  have named : a.config.getD Settings.defaultFile = a.file := by
    rw [Arguments.file]
    cases a.config <;> rfl
  simp only [settings, Settings.load, named, layered, Settings.applyFile]
  cases s.files a.file with
  | none =>
    cases asked : a.config with
    | none => rfl
    | some name =>
      rw [asked, Option.getD_some] at named
      rw [named]
      rfl
  | some text =>
    rw [Option.toList_some, List.map_singleton, Settings.after_append_singleton,
      ← List.nil_append [_], Settings.after_append_singleton, Settings.take, Settings.take,
      Settings.applyFile]
    dsimp only
    cases Layer.ofFile text <;> rfl

/-- A run has settings exactly if the configuration file can be used. -/
lemma settings_ok_iff {t : Settings} :
    settings s a = .ok t ↔ s.Loads a ∧ layered s a = t := by
  rw [settings_eq]
  constructor
  · intro h
    split at h
    case h_1 text there =>
      cases read : Layer.ofFile text with
      | error e =>
        rw [read] at h
        cases h
      | ok l =>
        rw [read] at h
        exact ⟨.read there read, Except.ok.inj h⟩
    case h_2 => cases h
    case h_3 missing unasked => exact ⟨.absent missing unasked, Except.ok.inj h⟩
  · rintro ⟨⟨there, read⟩ | ⟨missing, unasked⟩, rfl⟩
    · simp only [there, read]
      rfl
    · simp only [missing, unasked]

/-- A run has no settings if the file is missing or cannot be used. -/
lemma settings_error_iff {e : Settings.LoadError} :
    settings s a = .error e ↔
      (∃ name, a.config = some name ∧ s.files name = none ∧ .unreadable name = e) ∨
        ∃ text f, s.files a.file = some text ∧ Layer.ofFile text = .error f ∧
          .invalid a.file f = e := by
  rw [settings_eq]
  constructor
  · intro h
    split at h
    case h_1 text there =>
      cases bad : Layer.ofFile text with
      | error f =>
        rw [bad] at h
        exact .inr ⟨text, f, there, bad, Except.error.inj h⟩
      | ok l =>
        rw [bad] at h
        cases h
    case h_2 name missing asked =>
      rw [Arguments.file, asked] at missing
      exact .inl ⟨name, asked, missing, Except.error.inj h⟩
    case h_3 => cases h
  · rintro (⟨name, asked, missing, rfl⟩ | ⟨text, f, there, bad, rfl⟩)
    · simp only [Arguments.file, asked, missing]
    · simp only [there, bad]
      rfl

end Program

/-! ## The server -/

/-- A server is read exactly if its URL is, without the blanks around it. -/
lemma Server.ofUrl_ok_iff [Url.DomainRules] {url : String} {server : Server} :
    Server.ofUrl url = .ok server ↔ Url.parse (Text.trim url) = .ok server.base := by
  rw [Server.ofUrl]
  constructor
  · intro h
    split at h
    case h_1 => cases h
    case h_2 base parsed =>
      split at h
      case isTrue =>
        cases h
        exact parsed
      case isFalse => cases h
  · intro parsed
    rw [parsed]
    exact dif_pos server.structured

/-- There is a server for a URL exactly if it can be a base. -/
lemma Server.exists_ofUrl_ok_iff [Url.DomainRules] {url : String} :
    (∃ server, Server.ofUrl url = .ok server) ↔ CanBeBase url := by
  simp only [Server.ofUrl_ok_iff]
  constructor
  · rintro ⟨server, parsed⟩
    exact ⟨server.base, parsed, server.structured⟩
  · rintro ⟨base, parsed, structured⟩
    exact ⟨⟨base, structured⟩, parsed⟩

namespace Program

variable {s : Surroundings}

/-- There is a session exactly if the URL of the server can be a base. -/
lemma session_ok_iff [Url.DomainRules] {t : Settings} {n : Network} {session' : Session} :
    session t n = .ok session' ↔
      ∃ server : Server, Url.parse (Text.trim t.serverUrl) = .ok server.base ∧
        session' = { server, network := n, notifier := { duration := t.notifyMs.toNat } } := by
  simp only [← Server.ofUrl_ok_iff, session]
  cases Server.ofUrl t.serverUrl with
  | error f => simp [bind, Except.bind]
  | ok server => simp [bind, Except.bind, pure, Except.pure, eq_comm]

/-- There is a session exactly for a URL that can be a base. -/
lemma exists_session_error_iff [Url.DomainRules] {t : Settings} {n : Network} :
    (∃ f, session t n = .error f) ↔ ¬ CanBeBase t.serverUrl := by
  rw [← Server.exists_ofUrl_ok_iff, session]
  cases Server.ofUrl t.serverUrl with
  | error f => simp [bind, Except.bind]
  | ok server => simp [bind, Except.bind, pure, Except.pure]

/-- A run is refused for its arguments, for its settings or for its server. -/
lemma start_error_iff [Url.DomainRules] {e : StartError} :
    start s = .error e ↔
      (∃ u, Arguments.parse s.args = .error u ∧ .usage u = e) ∨
        ∃ a, Arguments.parse s.args = .ok a ∧
          ((∃ l, settings s a = .error l ∧ .settings l = e) ∨
            ∃ t f, settings s a = .ok t ∧ session t s.network = .error f ∧ .server f = e) := by
  rw [start]
  cases Arguments.parse s.args with
  | error u => simp [bind, Except.bind, Except.mapError]
  | ok a =>
    cases loaded : settings s a with
    | error l => simp [bind, Except.bind, Except.mapError, loaded]
    | ok t =>
      cases made : session t s.network with
      | error f => simp [bind, Except.bind, Except.mapError, loaded, made]
      | ok session' => simp [bind, Except.bind, Except.mapError, loaded, made, pure, Except.pure]

/-- A run that does not start prints nothing but its error line. -/
lemma run_of_start_error [Url.DomainRules] {e : StartError} (h : start s = .error e) :
    run s = ⟨e.exitCode, [], e.line?⟩ := by
  rw [run, h]

/-- What comes of a run that does not start is what it is refused with. -/
lemma refused_iff [Url.DomainRules] {r : Run} :
    ((∃ e, start s = .error e) ∧ run s = r) ↔ s.Refused r := by
  constructor
  · rintro ⟨⟨e, h⟩, rfl⟩
    rw [run_of_start_error h]
    obtain ⟨u, misused, rfl⟩ | ⟨a, parsed, ⟨l, unloaded, rfl⟩ | ⟨t, f, loaded, unmade, rfl⟩⟩ :=
      start_error_iff.1 h
    · cases u with
      | help => exact .help misused
      | _ => exact .usage misused (by decide)
    · obtain ⟨name, asked, missing, rfl⟩ | ⟨text, f, there, bad, rfl⟩ :=
        settings_error_iff.1 unloaded
      · exact .unreadable parsed asked missing
      · exact .invalid parsed there bad
    · obtain ⟨loads, layers⟩ := settings_ok_iff.1 loaded
      exact .server parsed loads (chooses_iff.2 layers).serverUrl
        (exists_session_error_iff.1 ⟨f, unmade⟩)
  · intro h
    -- each reason makes the start fail with an error of its own, which settles the run
    suffices ∃ e, start s = .error e ∧ ⟨e.exitCode, [], e.line?⟩ = r by
      obtain ⟨e, fails, rfl⟩ := this
      exact ⟨⟨e, fails⟩, run_of_start_error fails⟩
    cases h with
    | help misused => exact ⟨_, start_error_iff.2 (.inl ⟨_, misused, rfl⟩), rfl⟩
    | @usage u misused other =>
      refine ⟨_, start_error_iff.2 (.inl ⟨_, misused, rfl⟩), ?_⟩
      cases u with
      | help => exact (other rfl).elim
      | _ => rfl
    | unreadable parsed asked missing =>
      have unloaded := settings_error_iff.2 (.inl ⟨_, asked, missing, rfl⟩)
      exact ⟨_, start_error_iff.2 (.inr ⟨_, parsed, .inl ⟨_, unloaded, rfl⟩⟩), rfl⟩
    | invalid parsed there bad =>
      have unloaded := settings_error_iff.2 (.inr ⟨_, _, there, bad, rfl⟩)
      exact ⟨_, start_error_iff.2 (.inr ⟨_, parsed, .inl ⟨_, unloaded, rfl⟩⟩), rfl⟩
    | @server a url parsed loads chosen unfit =>
      have same : (layered s a).serverUrl = url := (chosen_iff_get_layered .serverUrl).1 chosen
      obtain ⟨f, unmade⟩ := exists_session_error_iff.2 (same ▸ unfit)
      have loaded := settings_ok_iff.2 ⟨loads, rfl⟩
      exact ⟨_, start_error_iff.2 (.inr ⟨_, parsed, .inr ⟨_, f, loaded, unmade, rfl⟩⟩), rfl⟩

/-- The settings of a run are, one by one, those that are chosen for it, if the configuration file
can be used at all; they make the session in which its task is carried out. A run starts exactly if
its command line can be carried out, its configuration file can be used and the server URL that is
chosen can be a base, whatever the others are and whatever rules there are for domains beyond ASCII.
What comes of a run that does not start is told by the first reason there is, and nothing else comes
of it. -/
theorem start_of_layers [Url.DomainRules] (s : Surroundings) :
    (∀ a t, settings s a = .ok t ↔ s.Loads a ∧ s.Chooses a t) ∧
      (∀ task session, start s = .ok (task, session) ↔
        ∃ a t server, Arguments.parse s.args = .ok a ∧ s.Loads a ∧ s.Chooses a t ∧
          Url.parse (Text.trim t.serverUrl) = .ok (Server.base server) ∧
          task = a.task.getD .interactive ∧
          session =
            { server, network := s.network, notifier := { duration := t.notifyMs.toNat } }) ∧
      ((∃ task session, start s = .ok (task, session)) ↔
        ∃ a url, Arguments.parse s.args = .ok a ∧ s.Loads a ∧
          Setting.serverUrl.Chosen a.settings s.env (s.files a.file) url ∧ CanBeBase url) ∧
      ∀ r, (∃ e, start s = .error e) ∧ run s = r ↔ s.Refused r := by
  have settled (a : Arguments) (t : Settings) :
      settings s a = .ok t ↔ s.Loads a ∧ s.Chooses a t := by
    rw [settings_ok_iff, chooses_iff]
  refine ⟨settled, fun task session' => ?_, ?_, fun r => refused_iff⟩
  · rw [start_ok_iff]
    simp only [settled, session_ok_iff]
    constructor
    · rintro ⟨a, t, parsed, ⟨loads, chooses⟩, ⟨server, accepted, rfl⟩, rfl⟩
      exact ⟨a, t, server, parsed, loads, chooses, accepted, rfl, rfl⟩
    · rintro ⟨a, t, server, parsed, loads, chooses, accepted, rfl, rfl⟩
      exact ⟨a, t, parsed, ⟨loads, chooses⟩, ⟨server, accepted, rfl⟩, rfl⟩
  · simp only [start_ok_iff, settled, session_ok_iff]
    constructor
    · rintro ⟨_, _, a, t, parsed, ⟨loads, chooses⟩, ⟨server, accepted, -⟩, -⟩
      exact ⟨a, t.serverUrl, parsed, loads, chooses.serverUrl, server.base, accepted,
        server.structured⟩
    · rintro ⟨a, url, parsed, loads, chosen, base, accepted, structured⟩
      have same : (layered s a).serverUrl = url := (chosen_iff_get_layered .serverUrl).1 chosen
      exact ⟨_, _, a, layered s a, parsed, ⟨loads, chooses_iff.2 rfl⟩,
        ⟨⟨base, structured⟩, same ▸ accepted, rfl⟩, rfl⟩

/-- A host beyond ASCII is as good as any other one, where there are rules for it. -/
example :
    let rules : Url.DomainRules := {
      ascii? := fun domain =>
        if domain = "bücher.example".toList then some "xn--bcher-kva.example".toList else none }
    (@run rules {
      args := ["--server-url", "http://bücher.example", "count"], env := fun _ => none
      files := fun _ => none, input := [], network := ⟨true, []⟩ }).exitCode = 0 := by
  decide +kernel

/-- A URL that can be no base does not matter where another one is chosen. -/
example :
    (run {
      args := ["--server-url", "http://localhost", "count"]
      env := fun name => if name = "APP__SERVER_URL" then some "mailto:a" else none
      files := fun _ => none, input := [], network := ⟨true, []⟩ }).exitCode = 0 := by
  decide +kernel

end Program

end Shortlink

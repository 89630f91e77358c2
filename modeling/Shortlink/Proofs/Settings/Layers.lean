import Shortlink.Proofs.Settings.Number

/-!
# Settings in layers

Files and environments are laid over the default settings one after the other. A setting keeps the
value of the last one that supplies it, whatever becomes of the other settings.
-/

namespace Shortlink

/-- A variable that is set to a text that can be read as a value. -/
def Holds {α : Type} (Reads : String → α → Prop) (env : String → Option String) (name : String)
    (v : α) : Prop :=
  ∃ text, env name = some text ∧ Reads text v

/-- One of the settings: where it stands in the settings and in a layer, the names of its two
variables and how their texts are read. -/
structure Setting (α : Type) where
  get : Settings → α
  supplied : Layer → Option α
  name : String
  olderName : String
  Reads : String → α → Prop
  get_overlay (s : Settings) (l : Layer) : get (s.overlay l) = (supplied l).getD (get s)
  supplied_environment (env : String → Option String) (v : α) :
    supplied (Layer.ofEnvironment env) = some v ↔
      Holds Reads env name v ∨ (∀ w, ¬ Holds Reads env name w) ∧ Holds Reads env olderName v

namespace Setting

/-- Of two variables the second one matters where nothing can be read from the first. -/
lemma orElse_eq_some_iff {α : Type} {P Q : α → Prop} {x y : Option α}
    (hx : ∀ v, x = some v ↔ P v) (hy : ∀ v, y = some v ↔ Q v) (v : α) :
    (x <|> y) = some v ↔ P v ∨ (∀ w, ¬ P w) ∧ Q v := by
  rw [Option.orElse_eq_some, Option.eq_none_iff_forall_ne_some]
  simp only [ne_eq, hx, hy]

/-- Any text of a variable can be read. -/
lemma env_eq_some_iff {env : String → Option String} {name : String} (v : String) :
    env name = some v ↔ Holds Eq env name v :=
  ⟨fun h => ⟨v, h, rfl⟩, fun ⟨_, h, same⟩ => same ▸ h⟩

/-- A number is read off a variable exactly if it holds one. -/
lemma numberOf?_eq_some_iff {env : String → Option String} {name : String} (n : UInt64) :
    Layer.numberOf? env name = some n ↔ Holds Layer.IsNumber env name n := by
  rw [Layer.numberOf?, Option.bind_eq_some_iff]
  simp only [Layer.readNumber_strip_iff, Holds]

/-- Any text is the URL of a server, so far. -/
def serverUrl : Setting String where
  get := Settings.serverUrl
  supplied := Layer.serverUrl
  name := "APP__SERVER_URL"
  olderName := "SHORTENER_SERVER_URL"
  Reads := Eq
  get_overlay _ _ := rfl
  supplied_environment _ := orElse_eq_some_iff env_eq_some_iff env_eq_some_iff

/-- How long a message stays. -/
def notifyMs : Setting UInt64 where
  get := Settings.notifyMs
  supplied := Layer.notifyMs
  name := "APP__NOTIFY_DURATION_MS"
  olderName := "SHORTENER_NOTIFY_MS"
  Reads := Layer.IsNumber
  get_overlay _ _ := rfl
  supplied_environment _ := orElse_eq_some_iff numberOf?_eq_some_iff numberOf?_eq_some_iff

/-- How long a reply is waited for. -/
def timeoutSecs : Setting UInt64 where
  get := Settings.timeoutSecs
  supplied := Layer.timeoutSecs
  name := "APP__REQUEST_TIMEOUT_SECS"
  olderName := "SHORTENER_TIMEOUT_SECS"
  Reads := Layer.IsNumber
  get_overlay _ _ := rfl
  supplied_environment _ := orElse_eq_some_iff numberOf?_eq_some_iff numberOf?_eq_some_iff

end Setting

/-! ## Steps -/

namespace Settings

/-- What is laid over settings. -/
inductive Step
  | file (text : String)
  | environment (env : String → Option String)

/-- The settings with a step. A file with an error leaves them as they are. -/
def take (s : Settings) : Step → Settings
  | .file text => (s.applyFile text).toOption.getD s
  | .environment env => s.applyEnvironment env

/-- The default settings with steps, one after the other. -/
def after (steps : List Step) : Settings := steps.foldl take {}

end Settings

namespace Setting

variable {α : Type} (x : Setting α)

/-- What a step supplies for a setting. The older name of a variable counts only where nothing can
be read from the other one. -/
inductive Supplies : Settings.Step → α → Prop
  | file {text l v} : Layer.ofFile text = .ok l → x.supplied l = some v → Supplies (.file text) v
  | newer {env v} : Holds x.Reads env x.name v → Supplies (.environment env) v
  | older {env v} :
    (∀ w, ¬ Holds x.Reads env x.name w) → Holds x.Reads env x.olderName v →
    Supplies (.environment env) v

/-- The value of the last step that supplies one, the default where there is none. -/
inductive Latest : List Settings.Step → α → Prop
  | supplied {front step back v} :
    x.Supplies step v → (∀ later ∈ back, ∀ w, ¬ x.Supplies later w) →
    Latest (front ++ step :: back) v
  | default {steps} : (∀ step ∈ steps, ∀ w, ¬ x.Supplies step w) → Latest steps (x.get {})

/-- What a step supplies, as the program finds it. -/
def suppliedBy? : Settings.Step → Option α
  | .file text => (Layer.ofFile text).toOption.bind x.supplied
  | .environment env => x.supplied (Layer.ofEnvironment env)

/-- The program finds what a step supplies. -/
lemma suppliedBy?_eq_some_iff {step : Settings.Step} {v : α} :
    x.suppliedBy? step = some v ↔ x.Supplies step v := by
  cases step with
  | file text =>
    constructor
    · intro h
      obtain ⟨l, read, supplied⟩ := Option.bind_eq_some_iff.1 h
      cases file : Layer.ofFile text with
      | error e =>
        rw [file] at read
        cases read
      | ok l' =>
        rw [file] at read
        cases read
        exact .file file supplied
    · rintro (⟨file, supplied⟩ | _ | _)
      rwa [suppliedBy?, file]
  | environment env =>
    rw [suppliedBy?, x.supplied_environment]
    constructor
    · rintro (newer | ⟨unset, older⟩)
      · exact .newer newer
      · exact .older unset older
    · rintro (_ | newer | ⟨unset, older⟩)
      · exact .inl newer
      · exact .inr ⟨unset, older⟩

/-- The program finds nothing exactly if the step supplies nothing. -/
lemma suppliedBy?_eq_none_iff {step : Settings.Step} :
    x.suppliedBy? step = none ↔ ∀ w, ¬ x.Supplies step w := by
  rw [Option.eq_none_iff_forall_ne_some]
  simp only [ne_eq, suppliedBy?_eq_some_iff]

/-- A step sets what it supplies and leaves the rest. -/
lemma get_take (s : Settings) (step : Settings.Step) :
    x.get (s.take step) = (x.suppliedBy? step).getD (x.get s) := by
  cases step with
  | file text =>
    rw [Settings.take, Settings.applyFile, suppliedBy?]
    cases Layer.ofFile text with
    | error e => rfl
    | ok l => exact x.get_overlay s l
  | environment env => exact x.get_overlay s _

/-- Looked for from the end, the first value that is supplied counts. -/
lemma get_foldl_take (steps : List Settings.Step) (s : Settings) :
    x.get (steps.foldl Settings.take s) =
      (steps.reverse.findSome? x.suppliedBy?).getD (x.get s) := by
  induction steps generalizing s with
  | nil => rfl
  | cons step rest ih =>
    rw [List.foldl_cons, ih, get_take, List.reverse_cons, List.findSome?_append,
      List.findSome?_singleton]
    cases rest.reverse.findSome? x.suppliedBy? <;> rfl

/-- The program finds the value of the last step that supplies one. -/
lemma latest_findSome? (steps : List Settings.Step) :
    x.Latest steps ((steps.reverse.findSome? x.suppliedBy?).getD (x.get {})) := by
  cases found : steps.reverse.findSome? x.suppliedBy? with
  | none =>
    refine .default fun step mem => x.suppliedBy?_eq_none_iff.1 ?_
    exact List.findSome?_eq_none_iff.1 found step (List.mem_reverse.2 mem)
  | some v =>
    obtain ⟨back, step, front, split, supplies, silent⟩ := List.findSome?_eq_some_iff.1 found
    have order : steps = front.reverse ++ step :: back.reverse := by
      rw [← List.reverse_reverse steps, split]
      simp
    rw [order]
    refine .supplied (x.suppliedBy?_eq_some_iff.1 supplies) fun later mem => ?_
    exact x.suppliedBy?_eq_none_iff.1 (silent later (List.mem_reverse.1 mem))

variable {x}

/-- There is only one value of the last step that supplies one. -/
lemma Latest.findSome?_eq {steps : List Settings.Step} {v : α} (h : x.Latest steps v) :
    (steps.reverse.findSome? x.suppliedBy?).getD (x.get {}) = v := by
  cases h with
  | @supplied front step back _ supplies silent =>
    have found : (front ++ step :: back).reverse.findSome? x.suppliedBy? = some v := by
      refine List.findSome?_eq_some_iff.2 ⟨back.reverse, step, front.reverse, by simp,
        x.suppliedBy?_eq_some_iff.2 supplies, fun later mem => ?_⟩
      exact x.suppliedBy?_eq_none_iff.2 (silent later (List.mem_reverse.1 mem))
    rw [found]
    rfl
  | default silent =>
    have found : steps.reverse.findSome? x.suppliedBy? = none := by
      refine List.findSome?_eq_none_iff.2 fun step mem => ?_
      exact x.suppliedBy?_eq_none_iff.2 (silent step (List.mem_reverse.1 mem))
    rw [found]
    rfl

/-- A setting has the latest value. -/
lemma get_after_iff {steps : List Settings.Step} {v : α} :
    x.get (Settings.after steps) = v ↔ x.Latest steps v := by
  rw [Settings.after, get_foldl_take]
  constructor
  · rintro rfl
    exact x.latest_findSome? steps
  · exact Latest.findSome?_eq

end Setting

namespace Settings

/-- One more step is laid over what there is. -/
lemma after_append_singleton (steps : List Step) (step : Step) :
    after (steps ++ [step]) = (after steps).take step :=
  List.foldl_append

/-- After any files and environments each setting has, whatever the others are, the value of the
last of them that supplies one, and the default where none does. A file with an error supplies
nothing and leaves the settings as they are; any other changes those that it has. A variable
supplies a number exactly if its text is one. -/
theorem fields_after_steps (steps : List Step) :
    let s := after steps
    (∀ v, s.serverUrl = v ↔ Setting.serverUrl.Latest steps v) ∧
      (∀ v, s.notifyMs = v ↔ Setting.notifyMs.Latest steps v) ∧
      (∀ v, s.timeoutSecs = v ↔ Setting.timeoutSecs.Latest steps v) ∧
      (∀ text,
        let s' := after (steps ++ [.file text])
        match Layer.ofFile text with
        | .error e => s.applyFile text = .error e ∧ s' = s
        | .ok l =>
          s.applyFile text = .ok s' ∧ s'.serverUrl = l.serverUrl.getD s.serverUrl ∧
            s'.notifyMs = l.notifyMs.getD s.notifyMs ∧
            s'.timeoutSecs = l.timeoutSecs.getD s.timeoutSecs) ∧
      ∀ env name n, Layer.numberOf? env name = some n ↔ Holds Layer.IsNumber env name n := by
  intro s
  refine ⟨fun _ => Setting.serverUrl.get_after_iff, fun _ => Setting.notifyMs.get_after_iff,
    fun _ => Setting.timeoutSecs.get_after_iff, fun text => ?_,
    fun _ _ => Setting.numberOf?_eq_some_iff⟩
  rw [after_append_singleton, take, applyFile]
  cases Layer.ofFile text with
  | error e => exact ⟨rfl, rfl⟩
  | ok l => exact ⟨rfl, rfl, rfl, rfl⟩

/-- A number under the older name survives what is no number under the other. -/
example :
    (after [.environment fun name =>
      if name = "APP__NOTIFY_DURATION_MS" then some "-1"
      else if name = "SHORTENER_NOTIFY_MS" then some " +7 " else none]).notifyMs = 7 := by
  decide +kernel

end Settings

end Shortlink

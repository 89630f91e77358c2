import Shortlink.Settings
import Shortlink.Task

/-!
# The command line

Options come first, then the task and its argument. An option has its value behind an equals sign or
as the next argument; in the second case the value is looked at only when something follows that is
not a task, or at the end. Behind `--` everything is an argument.
-/

namespace Shortlink

/-- An option with a value. -/
inductive Flag
  | serverUrl
  | notifyMs
  | timeoutSecs
  | config
deriving DecidableEq, Repr

/-- What a command line asks for. -/
structure Arguments where
  settings : Layer := {}
  config : Option String := none
  task : Option Task := none
deriving DecidableEq, Repr

/-- Why a command line is not carried out. -/
inductive UsageError
  /-- Help was asked for. -/
  | help
  | unknownArgument
  | unknownTask
  | missingArgument
  | missingValue
  | invalidNumber
  | repeatedOption
  | unexpectedValue
deriving DecidableEq, Repr

/-- The exit code: to ask for help is no error. -/
def UsageError.exitCode : UsageError → UInt32
  | .help => 0
  | _ => 2

namespace Arguments

/-- The option of a name. -/
def flag? : String → Option Flag
  | "server-url" => some .serverUrl
  | "notify-ms" => some .notifyMs
  | "timeout-secs" => some .timeoutSecs
  | "config" => some .config
  | _ => none

/-- The number of 64 bits that a value is. -/
def number (value : String) : Except UsageError UInt64 :=
  match Layer.readNumber value.toList with
  | some n => .ok n
  | none => .error .invalidNumber

/-- The command line with a value for an option, which may have one only once. -/
def set (a : Arguments) (flag : Flag) (value : String) : Except UsageError Arguments := do
  match flag with
  | .serverUrl =>
    if a.settings.serverUrl.isSome then throw .repeatedOption
    return { a with settings.serverUrl := some value }
  | .notifyMs =>
    if a.settings.notifyMs.isSome then throw .repeatedOption
    return { a with settings.notifyMs := some (← number value) }
  | .timeoutSecs =>
    if a.settings.timeoutSecs.isSome then throw .repeatedOption
    return { a with settings.timeoutSecs := some (← number value) }
  | .config =>
    if a.config.isSome then throw .repeatedOption
    if value.isEmpty then throw .missingValue
    return { a with config := some value }

/-- An option that is not set yet: its value may still be to come. -/
abbrev Pending := Option (Flag × Option String)

/-- The command line with the option that is not set yet, whose value has to be there by now. -/
def settle (a : Arguments) : Pending → Except UsageError Arguments
  | none => .ok a
  | some (_, none) => .error .missingValue
  | some (flag, some value) => a.set flag value

/-- What an argument looks like. -/
inductive Form
  | separator
  | long (name : String) (value : Option String)
  | short (letter : Char)
  | plain
deriving DecidableEq, Repr

/-- What an argument looks like, by the dashes in front. -/
def Form.of (arg : String) : Form :=
  match arg.toList with
  | ['-', '-'] => .separator
  | '-' :: '-' :: rest =>
    let name := String.ofList (rest.takeWhile (· != '='))
    match rest.dropWhile (· != '=') with
    | _ :: value => .long name (some (String.ofList value))
    | [] => .long name none
  | '-' :: letter :: _ => .short letter
  | _ => .plain

/-- The words that name a task, and whether the task has an argument. -/
def taskWords : List (String × Bool) :=
  [("count", false), ("shorten", true), ("delete", true), ("resolve", true), ("interactive", false)]

/-- Whether a word names a task or asks for help. -/
def isTaskWord (arg : String) : Bool := arg = "help" || taskWords.any (·.1 == arg)

/-- Why help on a task is refused or given. Help itself has no further parts. -/
def helpOn : List String → UsageError
  | [] => .help
  | [word] => if isTaskWord word then .help else .unknownTask
  | _ :: _ :: _ => .unknownTask

/-- The arguments of a task: one where `value` can still be filled, and none elsewhere. -/
def scanTask (wanted : Bool) (value : Option String) (behindSeparator : Bool) :
    List String → Except UsageError (Option String)
  | [] => if wanted && value.isNone then .error .missingArgument else .ok value
  | arg :: rest =>
    let argument : Except UsageError (Option String) :=
      if wanted && value.isNone then scanTask wanted (some arg) behindSeparator rest
      else .error .unknownArgument
    if behindSeparator then argument
    else
      match Form.of arg with
      | .separator => scanTask wanted value true rest
      | .long "help" none => .error .help
      | .long "help" (some _) => .error .unexpectedValue
      | .long _ _ => .error .unknownArgument
      | .short letter => .error (if letter = 'h' then .help else .unknownArgument)
      | .plain => argument

/-- The task of a word, with the arguments behind it. -/
def task? (word : String) (rest : List String) : Except UsageError Task := do
  let wanted := (taskWords.find? (·.1 == word)).any (·.2)
  let value := (← scanTask wanted none false rest).getD ""
  match word with
  | "count" => return .count
  | "shorten" => return .shorten value
  | "delete" => return .delete value
  | "resolve" => return .resolve value
  | _ => return .interactive

/-- Reads the arguments one after the other. The first word has to be a task, and all that follows
belongs to it. -/
def scan (a : Arguments) (pending : Pending) (behindSeparator : Bool) :
    List String → Except UsageError Arguments
  | [] => a.settle pending
  | arg :: rest => do
    let awaitsValue := pending.any (·.2.isNone)
    if behindSeparator then
      throw (if isTaskWord arg then .unknownArgument else .unknownTask)
    else if !awaitsValue && isTaskWord arg then
      if arg = "help" then throw (helpOn rest)
      let task ← task? arg rest
      return { ← a.settle pending with task := some task }
    else
      match Form.of arg, pending with
      | .separator, _ => scan a pending true rest
      | .long "help" none, _ =>
        let _ ← a.settle pending
        throw .help
      | .long "help" (some _), _ => throw .unexpectedValue
      | .long name value, _ =>
        match flag? name with
        | none => throw .unknownArgument
        | some flag =>
          let a ← a.settle pending
          match value with
          | none => scan a (some (flag, none)) false rest
          | some value => scan (← a.set flag value) none false rest
      | .short letter, _ =>
        if letter = 'h' then
          let _ ← a.settle pending
          throw .help
        else throw .unknownArgument
      | .plain, some (flag, none) => scan a (some (flag, some arg)) false rest
      | .plain, _ => throw .unknownTask

/-- What a command line, without the name of the program, asks for. -/
def parse (args : List String) : Except UsageError Arguments :=
  scan {} none false args

end Arguments

end Shortlink

import Liveboard.Metrics.Period

/-!
# The words of the command line

The words name a command, with options before and behind the name. They are
taken one at a time by a `WordReader`, which knows how far among the names
of commands it has come and whether an option still wants its value. A file
of settings can be named at any place, and the innermost name counts.

What the words ask for is an `Invocation`, or a `Usage`: help that was asked
for, or why the words are wrong. `Invocation.ofWords` runs the reader over
all words and then asks what is missing.
-/

namespace Liveboard

/-- **What is to be done about the queues.** -/
inductive QueueAction where
  /-- Show all queues. -/
  | list
  /-- Show the requests that are served. -/
  | active
  /-- Show how the queues are set up. -/
  | config
  /-- Set the queues up anew, from a file. -/
  | setConfig (file : String)
  /-- Take a request out of its queue. -/
  | cancel (id : String)
  deriving DecidableEq, Repr

/-- **A command.** -/
inductive Command where
  /-- Follow the usage of a period, and of an API. -/
  | watch (period : Option Period) (api : Option String)
  /-- Show the snapshot of a period. -/
  | snapshot (period : Option Period)
  /-- Do something about the queues. -/
  | queues (action : QueueAction)
  /-- Check the settings. -/
  | validate
  /-- Write a new file of settings. -/
  | init (output : String)
  deriving DecidableEq, Repr

/-- **What the words ask for.** -/
structure Invocation where
  /-- The command. -/
  command : Command
  /-- The file of settings. -/
  config : Option String
  deriving DecidableEq, Repr

/-- **Why there is nothing to be done.** -/
inductive Usage where
  /-- The words ask for help. -/
  | help
  /-- The words ask for the version. -/
  | version
  /-- The words are wrong. -/
  | wrong
  deriving DecidableEq, Repr

/-- The options. -/
inductive OptionName where
  /-- The file of settings. -/
  | config
  /-- A period. -/
  | period
  /-- An API. -/
  | api
  /-- The file to write. -/
  | output
  deriving DecidableEq, Repr

namespace OptionName

/-- The long name of an option. -/
def long : OptionName → String
  | .config => "config"
  | .period => "period"
  | .api => "api"
  | .output => "output"

/-- The short name of an option. -/
def short? : OptionName → Option Char
  | .config => some 'c'
  | .period => some 'p'
  | .api => none
  | .output => some 'o'

end OptionName

/-- **Where among the names of commands the words have come.** -/
inductive CommandLevel where
  /-- No name yet. -/
  | top
  /-- The queues, without an action. -/
  | queues
  /-- A command of its own. -/
  | watch | snapshot | validate | init
  /-- An action on the queues. -/
  | list | active | config | setConfig | cancel
  deriving DecidableEq, Repr

namespace CommandLevel

/-- The names that can follow. -/
def names : CommandLevel → List (String × CommandLevel)
  | .top => [("watch", .watch), ("snapshot", .snapshot), ("queues", .queues),
      ("validate", .validate), ("init", .init)]
  | .queues => [("list", .list), ("active", .active), ("config", .config),
      ("set-config", .setConfig), ("cancel", .cancel)]
  | _ => []

/-- The options of a command. -/
def options : CommandLevel → List OptionName
  | .watch => [.config, .period, .api]
  | .snapshot => [.config, .period]
  | .init => [.config, .output]
  | _ => [.config]

/-- The number of words that a command takes. -/
def arity : CommandLevel → Nat
  | .setConfig | .cancel => 1
  | _ => 0

end CommandLevel

/-- **The words so far.** -/
structure WordReader where
  /-- Where among the names of commands they have come. -/
  level : CommandLevel
  /-- The options of the command, with their values. -/
  given : List (OptionName × String)
  /-- The file of settings. -/
  config : Option String
  /-- The words that are no options. -/
  words : List String
  /-- The option that wants the next word. -/
  pending : Option OptionName
  /-- Whether no more options follow. -/
  plain : Bool
  /-- Whether help is asked for. -/
  helping : Bool

namespace WordReader

/-- No words yet. -/
def start : WordReader where
  level := .top
  given := []
  config := none
  words := []
  pending := none
  plain := false
  helping := false

/-- Whether a text is a value of an option. -/
def isValue (option : OptionName) (value : String) : Bool :=
  match option with
  | .period => (Period.parse value).isOk
  | _ => true

/-- Gives an option its value; it may be given once. -/
def give (r : WordReader) (option : OptionName) (value : String) : Except Usage WordReader :=
  if (r.given.lookup option).isSome || !isValue option value then .error .wrong
  else .ok { r with
    given := (option, value) :: r.given
    config := if option = .config then some value else r.config
    pending := none }

/-- An option with its value, or one that wants the next word. -/
def option (r : WordReader) (found : Option OptionName) (value : Option String) :
    Except Usage WordReader :=
  match found with
  | none => .error .wrong
  | some option =>
    if r.helping then .error .wrong
    else match value with
      | some value => r.give option value
      | none =>
        if (r.given.lookup option).isSome then .error .wrong
        else .ok { r with pending := some option }

/-- Splits a word at its first equals sign. -/
def splitEquals (cs : List Char) : String × Option String :=
  (String.ofList (cs.takeWhile (· ≠ '=')),
    match cs.dropWhile (· ≠ '=') with
    | _ :: value => some (String.ofList value)
    | [] => none)

/-- A word that begins with two dashes. -/
def longWord (r : WordReader) (cs : List Char) : Except Usage WordReader :=
  match splitEquals cs with
  | ("help", none) => .error .help
  | ("version", none) => .error (if r.level = .top && !r.helping then .version else .wrong)
  | (name, value) => r.option (r.level.options.find? fun o => o.long = name) value

/-- A word that begins with one dash. -/
def shortWord (r : WordReader) (c : Char) (rest : List Char) : Except Usage WordReader :=
  if c = 'h' then .error .help
  else if c = 'V' && r.level = .top && !r.helping then .error .version
  else
    r.option (r.level.options.find? fun o => o.short? = some c) (match rest with
      | [] => none
      | '=' :: value => some (String.ofList value)
      | value => some (String.ofList value))

/-- A word that is no option: the name of a command, or a word for it. -/
def bareWord (r : WordReader) (word : String) : Except Usage WordReader :=
  if r.level.names.isEmpty || r.plain then
    if r.words.length < r.level.arity && !r.helping then .ok { r with words := r.words ++ [word] }
    else .error .wrong
  else if word = "help" && !r.helping then .ok { r with helping := true }
  else match r.level.names.lookup word with
    | some level => .ok { r with level := level, given := [] }
    | none => .error .wrong

/-- **One word.** -/
def step (r : WordReader) (word : String) : Except Usage WordReader :=
  match r.pending with
  | some option =>
    if word.startsWith "-" && word ≠ "-" then .error .wrong else r.give option word
  | none =>
    if r.plain then r.bareWord word
    else match word.toList with
      | ['-', '-'] => .ok { r with plain := true }
      | '-' :: '-' :: name => r.longWord name
      | '-' :: c :: rest => r.shortWord c rest
      | _ => r.bareWord word

/-- The period given. -/
def period (r : WordReader) : Option Period :=
  (r.given.lookup .period).bind fun s =>
    match Period.parse s with
    | .ok p => some p
    | .error _ => none

/-- What an unnamed output is called. -/
def defaultOutput : String := "dash.toml"

/-- The command, if it is complete. -/
def command? (r : WordReader) : Option Command :=
  match r.level, r.words with
  | .watch, _ => some (.watch r.period (r.given.lookup .api))
  | .snapshot, _ => some (.snapshot r.period)
  | .validate, _ => some .validate
  | .init, _ => some (.init ((r.given.lookup .output).getD defaultOutput))
  | .list, _ => some (.queues .list)
  | .active, _ => some (.queues .active)
  | .config, _ => some (.queues .config)
  | .setConfig, [file] => some (.queues (.setConfig file))
  | .cancel, [id] => some (.queues (.cancel id))
  | _, _ => none

end WordReader

/-- **The meaning of the words.** -/
def Invocation.ofWords (words : List String) : Except Usage Invocation := do
  let r ← words.foldlM WordReader.step .start
  if r.helping then throw .help
  if r.pending.isSome then throw .wrong
  match r.command? with
  | some command => return ⟨command, r.config⟩
  | none => throw .wrong

end Liveboard

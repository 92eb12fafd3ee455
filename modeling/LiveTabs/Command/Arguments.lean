import LiveTabs.Text.Digits

/-!
# Arguments

The words after the name of the program: options of the program, a command, and options of the
command. The options of the program may also follow the command, and what is said there counts more.
An option is given at most once before and once after the command.

Words are read from left to right. The value of an option is the rest of its word or the next word.
In the second case it is looked at only when the next option comes, or when there are no more words;
so a call for help can come first. Two of the options can also be given as environment variables,
which count less than any word.
-/

namespace LiveTabs

/-- Why arguments do not say what to do. -/
inductive Refusal where
  /-- They are wrong. -/
  | usage
  /-- The user asks how to use the program. -/
  | help
  /-- The user asks for the version of the program. -/
  | version
deriving DecidableEq

/-- What the program is asked to do. -/
inductive Command where
  /-- Open tabs and print what they are told. -/
  | watch (tabs : Nat) (relay : Bool)
  /-- Print the configuration. -/
  | showConfig
deriving DecidableEq

/-- Environment variables that stand for options. -/
structure Environment where
  config : Option String := none
  url : Option String := none

/-- What arguments say. -/
structure Arguments where
  verbose : Bool
  /-- The settings file. -/
  config : Option String
  /-- The address of the stream, whatever the settings file says. -/
  url : Option String
  /-- The file for a log. -/
  log : Option String
  command : Command

namespace Arguments

/-- Options without a value. -/
inductive Switch where
  | verbose
  | noRelay
deriving DecidableEq

/-- Options with a value. -/
inductive Setting where
  | config
  | url
  | log
  | tabs
deriving DecidableEq

/-- What an option can stand for. -/
inductive Meaning where
  | switch (switch : Switch)
  | setting (setting : Setting)
  /-- The user wants something else than a command. -/
  | refusal (refusal : Refusal)
deriving DecidableEq

/-- Where options stand: before the command, or after it. -/
inductive Level where
  | program
  | watch
  | showConfig
deriving DecidableEq

/-- The option with a long name. -/
def Level.long? (level : Level) (name : String) : Option Meaning :=
  match name with
  | "verbose" => some (.switch .verbose)
  | "config" => some (.setting .config)
  | "url" => some (.setting .url)
  | "log" => some (.setting .log)
  | "help" => some (.refusal .help)
  | "version" => some (.refusal .version)
  | "tabs" => if level = .watch then some (.setting .tabs) else none
  | "no-relay" => if level = .watch then some (.switch .noRelay) else none
  | _ => none

/-- The option with a letter for its name. -/
def short? : Char → Option Meaning
  | 'v' => some (.switch .verbose)
  | 'c' => some (.setting .config)
  | 'h' => some (.refusal .help)
  | 'V' => some (.refusal .version)
  | _ => none

/-- The options given at one level. -/
structure Given where
  verbose : Bool := false
  config : Option String := none
  url : Option String := none
  log : Option String := none
  tabs : Option Nat := none
  noRelay : Bool := false

/-- The options read at one level. -/
structure Reading where
  given : Given := {}
  /-- An option whose value is a word of its own, which is not looked at yet or still to come. -/
  pending : Option (Setting × Option String) := none

/-- Something that has to be there. -/
def required {α : Type} : Option α → Except Refusal α
  | some value => .ok value
  | none => .error .usage

/-- The name of a file, which cannot be empty. -/
def fileName? (value : String) : Option String := if value.isEmpty then none else some value

/-- The greatest number of tabs that can be asked for. -/
def tabLimit : Nat := Nat.pow 2 64 - 1

/-- A number of tabs: decimal digits, with a plus before them or not. -/
def tabCount? (value : String) : Option Nat := do
  let digits := match value.toList with
    | '+' :: digits => digits
    | digits => digits
  let count ← Text.number? 10 digits
  if count ≤ tabLimit then some count else none

/-- Sets what was not given before. -/
def fresh {α : Type} (before value : Option α) : Except Refusal (Option α) :=
  if before.isSome then .error .usage else some <$> required value

/-- Gives an option its value. -/
def Given.set (given : Given) (setting : Setting) (value : String) : Except Refusal Given :=
  match setting with
  | .config => do pure { given with config := ← fresh given.config (fileName? value) }
  | .url => do pure { given with url := ← fresh given.url (some value) }
  | .log => do pure { given with log := ← fresh given.log (fileName? value) }
  | .tabs => do pure { given with tabs := ← fresh given.tabs (tabCount? value) }

/-- Turns a switch on. -/
def Given.switchOn (given : Given) : Switch → Except Refusal Given
  | .verbose => if given.verbose then .error .usage else .ok { given with verbose := true }
  | .noRelay => if given.noRelay then .error .usage else .ok { given with noRelay := true }

namespace Reading

/-- Whether the next word is the value of an option. -/
def isAwaiting (reading : Reading) : Bool :=
  match reading.pending with
  | some (_, none) => true
  | _ => false

/-- Looks at the pending value. -/
def settle (reading : Reading) : Except Refusal Given :=
  match reading.pending with
  | none => .ok reading.given
  | some (setting, value) => do reading.given.set setting (← required value)

/-- Takes up an option with the rest of its word, if it has one. -/
def takeUp (reading : Reading) (meaning : Meaning) (rest : Option String) :
    Except Refusal Reading := do
  match meaning, rest with
  | .setting setting, some value => pure { given := ← (← reading.settle).set setting value }
  | .setting setting, none => pure { given := ← reading.settle, pending := some (setting, none) }
  | .switch _, some _ | .refusal _, some _ => throw .usage
  | .switch switch, none => pure { given := ← (← reading.settle).switchOn switch }
  | .refusal refusal, none =>
    let _ ← reading.settle
    throw refusal

/-- Reads a long option. An equals sign stands between the name and a value in the same word. -/
def readLong (level : Level) (reading : Reading) (word : List Char) : Except Refusal Reading := do
  let name := String.ofList (word.takeWhile (· != '='))
  let meaning ← required (level.long? name)
  reading.takeUp meaning (match word.dropWhile (· != '=') with
    | _ :: value => some (String.ofList value)
    | [] => none)

/-- Reads letters, each an option, up to the first that has a value. An equals sign may stand before
a value in the same word. -/
def readShort (reading : Reading) : List Char → Except Refusal Reading
  | [] => .ok reading
  | letter :: rest => do
    let meaning ← required (short? letter)
    match meaning, rest with
    | .setting _, [] => reading.takeUp meaning none
    | .setting _, '=' :: value => reading.takeUp meaning (some (String.ofList value))
    | .setting _, value => reading.takeUp meaning (some (String.ofList value))
    | _, more => readShort (← reading.takeUp meaning none) more

/-- Reads a word that is no command. Only an option or its value can stand there. -/
def readWord (level : Level) (reading : Reading) (word : String) : Except Refusal Reading :=
  match word.toList with
  | '-' :: '-' :: name => readLong level reading name
  | '-' :: letter :: letters => reading.readShort (letter :: letters)
  | _ =>
    match reading.pending with
    | some (setting, none) => .ok { reading with pending := some (setting, some word) }
    | _ => .error .usage

/-- Reads the words at one level up to a command; commands stand only before all others. Two hyphens
end the options, and nothing may follow them. -/
def readWords (level : Level) (reading : Reading) :
    List String → Except Refusal (Reading × Option (String × List String))
  | [] => .ok (reading, none)
  | word :: rest =>
    if level = .program ∧ ¬reading.isAwaiting ∧ ["watch", "config", "help"].contains word then
      .ok (reading, some (word, rest))
    else if word = "--" then if rest.isEmpty then .ok (reading, none) else .error .usage
    else
      match readWord level reading word with
      | .ok reading => readWords level reading rest
      | .error refusal => .error refusal

end Reading

/-- Reads the options after a command. -/
def readLevel (level : Level) (words : List String) : Except Refusal Given := do
  let (reading, _) ← Reading.readWords level {} words
  reading.settle

/-- Whether an environment variable names a settings file. It is looked at wherever the option is
not given. -/
def admits (environment : Environment) (given : Given) : Bool :=
  given.config.isSome || environment.config != some ""

/-- Whether help exists for the words after a call for help. -/
def hasHelp : List String → Bool
  | [] => true
  | [topic] => ["watch", "config", "help"].contains topic
  | _ => false

/-- Reads arguments. -/
def read (environment : Environment) (words : List String) : Except Refusal Arguments := do
  let (reading, rest) ← Reading.readWords .program {} words
  let (word, rest) ← required rest
  if word = "help" then throw (if hasHelp rest then .help else .usage)
  let level : Level := if word = "watch" then .watch else .showConfig
  let after ← readLevel level rest
  let before ← reading.settle
  if !(admits environment before && admits environment after) then throw .usage
  pure {
    verbose := before.verbose || after.verbose
    config := after.config <|> before.config <|> environment.config
    url := after.url <|> before.url <|> environment.url
    log := after.log <|> before.log
    command :=
      if level = .watch then .watch (after.tabs.getD 2) (!after.noRelay) else .showConfig }

end Arguments

end LiveTabs

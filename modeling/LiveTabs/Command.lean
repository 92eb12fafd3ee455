import LiveTabs.Command.Arguments
import LiveTabs.Config.Settings

/-!
# Commands

A command works on the configuration that its arguments call for: the settings file if one is named,
or else the standard settings, with the address of the stream replaced if one is given. The
configuration is checked again after that.
-/

namespace LiveTabs

/-- Why a command is not carried out. -/
inductive CommandError where
  /-- The settings file cannot be read. -/
  | unreadable
  /-- The settings are wrong. -/
  | settings (error : SettingsError)
  /-- No tab is to be opened. -/
  | noTabs
deriving DecidableEq

/-- The description of a failed command for the user. -/
def CommandError.message : CommandError → String
  | .unreadable => "cannot read the settings file"
  | .settings .malformed => "the settings file is malformed"
  | .settings (.refused error) => error.message
  | .noTabs => "--tabs must be at least 1"

/-- What a command does. -/
inductive Task where
  /-- Prints a text. -/
  | print (text : String)
  /-- Opens tabs and prints what they are told. -/
  | watch (config : Config) (tabs : Nat) (relay : Bool)

/-- A fault of the configuration as a fault of a command. -/
def CommandError.ofSetup {α : Type} : Except SetupError α → Except CommandError α
  | .ok value => .ok value
  | .error error => .error (.settings (.refused error))

namespace Arguments

/-- The settings as the named file has them, where `content` gives the text of each file that can be
read. -/
def baseConfig (arguments : Arguments) (content : String → Option String) :
    Except CommandError Config :=
  match arguments.config with
  | none => .ok {}
  | some path =>
    match content path with
    | none => .error .unreadable
    | some text =>
      match Config.ofSettings text with
      | .ok config => .ok config
      | .error error => .error (.settings error)

/-- The configuration that arguments call for. -/
def loadConfig (arguments : Arguments) (content : String → Option String) :
    Except CommandError Config := do
  let base ← arguments.baseConfig content
  let config := match arguments.url with
    | some url => { base with stream := { base.stream with url } }
    | none => base
  CommandError.ofSetup config.validate
  pure config

/-- What the command does under its configuration. -/
def task (arguments : Arguments) (content : String → Option String) : Except CommandError Task := do
  let config ← arguments.loadConfig content
  match arguments.command with
  | .showConfig => .print <$> CommandError.ofSetup config.toSettings
  | .watch tabs relay => if tabs = 0 then throw .noTabs else pure (.watch config tabs relay)

end Arguments

end LiveTabs

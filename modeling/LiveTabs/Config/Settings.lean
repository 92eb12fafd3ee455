import LiveTabs.Config
import LiveTabs.Json.Printer
import LiveTabs.Toml.Quoted
import LiveTabs.Toml.Statement

/-!
# Settings files

A settings file has a table for each part of a tab. What it leaves out has its default, and what it
names beyond the settings is ignored. Intervals are whole milliseconds; the two that may be absent
are absent when they are written as zero. A table may also be given as a list of its values in
order.
-/

namespace LiveTabs

open Toml (Node Members)

namespace Settings

/-- What a table says about the given keys. A list says it by position, and a date or time, which is
the one bare value with parts of its own, says nothing about any key. -/
def valuesOf (keys : List String) : Node → Option (List (Option Node))
  | .table _ members => some (keys.map (Members.get? members))
  | .array items => some ((List.range keys.length).map fun place => items[place]?)
  | .tables earlier last =>
    let tables := (earlier ++ [last]).map (Node.table .header)
    some ((List.range keys.length).map fun place => tables[place]?)
  | .scalar .moment => some (keys.map fun _ => none)
  | _ => none

/-- Reads a text. -/
def text? : Node → Option String
  | .text content => some content
  | _ => none

/-- Reads an interval in whole milliseconds. -/
def interval? : Node → Option Duration
  | .scalar (.integer value) => if 0 ≤ value then some (.ofMilliseconds value.toNat) else none
  | _ => none

/-- Reads an interval that is absent when it is zero. -/
def optionalInterval? (node : Node) : Option (Option Duration) :=
  (interval? node).map fun interval => if interval = .zero then none else some interval

/-- Reads a value that has a default. -/
def orDefault {α : Type} (read : Node → Option α) (default : α) : Option Node → Option α
  | none => some default
  | some node => read node

/-- The keys of the stream settings. -/
def streamKeys : List String :=
  ["url", "initial_backoff_ms", "max_backoff_ms", "debounce_ms", "disconnect_warning_ms"]

/-- Reads the stream settings. -/
def stream? (node : Node) : Option StreamConfig := do
  let standard : StreamConfig := {}
  match ← valuesOf streamKeys node with
  | [url, initialBackoff, maxBackoff, debounce, disconnectWarning] =>
    let url ← orDefault text? standard.url url
    let initialBackoff ← orDefault interval? standard.initialBackoff initialBackoff
    let maxBackoff ← orDefault interval? standard.maxBackoff maxBackoff
    let debounce ← orDefault interval? standard.debounce debounce
    let disconnectWarning ← orDefault optionalInterval? standard.disconnectWarning disconnectWarning
    some { url, initialBackoff, maxBackoff, debounce, disconnectWarning }
  | _ => none

/-- The keys of the election settings. -/
def leaderKeys : List String :=
  ["lease_key", "heartbeat_interval_ms", "lease_ttl_ms", "safety_check_interval_ms"]

/-- Reads the election settings. -/
def leader? (node : Node) : Option LeaderConfig := do
  let standard : LeaderConfig := {}
  match ← valuesOf leaderKeys node with
  | [leaseKey, heartbeatInterval, leaseTtl, safetyCheckSetting] =>
    let leaseKey ← orDefault text? standard.leaseKey leaseKey
    let heartbeatInterval ← orDefault interval? standard.heartbeatInterval heartbeatInterval
    let leaseTtl ← orDefault interval? standard.leaseTtl leaseTtl
    let safetyCheckSetting ←
      orDefault optionalInterval? standard.safetyCheckSetting safetyCheckSetting
    some { leaseKey, heartbeatInterval, leaseTtl, safetyCheckSetting }
  | _ => none

/-- The keys of the relay settings. -/
def relayKeys : List String := ["channel_name"]

/-- Reads the relay settings. -/
def relay? (node : Node) : Option RelayConfig := do
  let standard : RelayConfig := {}
  match ← valuesOf relayKeys node with
  | [channelName] =>
    let channelName ← orDefault text? standard.channelName channelName
    some { channelName }
  | _ => none

/-- Reads the settings of a tab. -/
def config? (members : Members) : Option Config := do
  let stream ← orDefault stream? {} (Members.get? members "stream")
  let leader ← orDefault leader? {} (Members.get? members "leader")
  let relay ← orDefault relay? {} (Members.get? members "relay")
  some { stream, leader, relay }

/-- The greatest integer that a settings file can hold. -/
def greatestInteger : Nat := Nat.pow 2 63 - 1

/-- Writes a key and its value. -/
def writeLine (key : String) (value : List Char) : List Char :=
  key.toList ++ " = ".toList ++ value ++ ['\n']

/-- Writes a key and a text. -/
def writeText (key text : String) : List Char := writeLine key (Toml.quoted text)

/-- Writes a key and an interval, if the interval can be written. Its milliseconds are cut to 64
bits first, so an interval of `2 ^ 64` of them or more is written as another one or not at all. -/
def writeInterval (key : String) (interval : Duration) : Option (List Char) :=
  let milliseconds := interval.milliseconds % 18446744073709551616
  if milliseconds ≤ greatestInteger then some (writeLine key (Json.decimalDigits [] milliseconds))
  else none

/-- Writes the stream settings. -/
def writeStream (config : StreamConfig) : Option (List Char) := do
  let initialBackoff ← writeInterval "initial_backoff_ms" config.initialBackoff
  let maxBackoff ← writeInterval "max_backoff_ms" config.maxBackoff
  let debounce ← writeInterval "debounce_ms" config.debounce
  let disconnectWarning ←
    writeInterval "disconnect_warning_ms" (config.disconnectWarning.getD .zero)
  some ("[stream]\n".toList ++ writeText "url" config.url ++ initialBackoff ++ maxBackoff ++
    debounce ++ disconnectWarning)

/-- Writes the election settings. -/
def writeLeader (config : LeaderConfig) : Option (List Char) := do
  let heartbeatInterval ← writeInterval "heartbeat_interval_ms" config.heartbeatInterval
  let leaseTtl ← writeInterval "lease_ttl_ms" config.leaseTtl
  let safetyCheck ← match config.safetyCheckSetting with
    | some interval => writeInterval "safety_check_interval_ms" interval
    | none => some []
  some ("[leader]\n".toList ++ writeText "lease_key" config.leaseKey ++ heartbeatInterval ++
    leaseTtl ++ safetyCheck)

/-- Writes the relay settings. -/
def writeRelay (config : RelayConfig) : List Char :=
  "[relay]\n".toList ++ writeText "channel_name" config.channelName

end Settings

/-- Why a settings file was refused. -/
inductive SettingsError where
  /-- The text is no settings file, or a setting has a value of the wrong kind. -/
  | malformed
  /-- The settings are not valid. -/
  | refused (error : SetupError)
deriving DecidableEq

/-- Reads a settings file. The settings have to be valid. -/
def Config.ofSettings (text : String) : Except SettingsError Config :=
  match (Toml.Members.ofText text).bind Settings.config? with
  | none => .error .malformed
  | some config =>
    match config.validate with
    | .ok () => .ok config
    | .error error => .error (.refused error)

/-- The settings file that says a configuration. An interval that is too long to be written is a
fault of the configuration. -/
def Config.toSettings (config : Config) : Except SetupError String :=
  let written : Option (List Char) := do
    let stream ← Settings.writeStream config.stream
    let leader ← Settings.writeLeader config.leader
    some (stream ++ ['\n'] ++ leader ++ ['\n'] ++ Settings.writeRelay config.relay)
  match written with
  | some characters => .ok (String.ofList characters)
  | none => .error (.invalidConfig .intervalTooLong)

end LiveTabs

import LiveTabs.Text.Blank
import LiveTabs.Time

/-!
# Configuration

The settings of the three parts of a tab: the event stream, the election of a leader, and the relay
between tabs. A configuration is valid when no name in it is blank, no interval that is waited for
is zero, delays between connection attempts can grow, and a lease outlives the interval at which it
is renewed.
-/

namespace LiveTabs

/-- Settings of the event stream. -/
structure StreamConfig where
  /-- The address of the stream. -/
  url : String := "http://127.0.0.1:3030/events"
  /-- The delay before the first attempt to connect again. -/
  initialBackoff : Duration := .ofMilliseconds 1000
  /-- The longest delay between attempts. -/
  maxBackoff : Duration := .ofMilliseconds 30000
  /-- How long events are collected after the last of them. -/
  debounce : Duration := .ofMilliseconds 200
  /-- How long a lost connection is borne before the user is warned; never, if absent. -/
  disconnectWarning : Option Duration := some (.ofMilliseconds 10000)
deriving DecidableEq

/-- Settings of the election. -/
structure LeaderConfig where
  /-- The key of the lease in the shared storage. -/
  leaseKey : String := "tabsync:leader"
  /-- The interval at which a leader renews its lease. -/
  heartbeatInterval : Duration := .ofMilliseconds 4000
  /-- The age beyond which a lease may be taken over. -/
  leaseTtl : Duration := .ofMilliseconds 10000
  /-- The interval at which every tab looks at the lease, if it is set. -/
  safetyCheckSetting : Option Duration := none
deriving DecidableEq

/-- Settings of the relay. -/
structure RelayConfig where
  /-- The name of the channel between the tabs. -/
  channelName : String := "tabsync:updates"
deriving DecidableEq

/-- Settings of a tab. -/
structure Config where
  stream : StreamConfig := {}
  leader : LeaderConfig := {}
  relay : RelayConfig := {}
deriving DecidableEq

/-- What is wrong with a configuration. -/
inductive ConfigError where
  | blankUrl
  | zeroInitialBackoff
  | maxBackoffBelowInitial (maximum initial : Duration)
  | zeroDebounce
  | blankLeaseKey
  | zeroHeartbeatInterval
  | ttlNotAboveHeartbeat (ttl heartbeat : Duration)
  | zeroSafetyCheckInterval
  | blankChannelName
  /-- An interval cannot be written into a settings file. -/
  | intervalTooLong
deriving DecidableEq

/-- The description of a fault for the user. -/
def ConfigError.message : ConfigError → String
  | .blankUrl => "stream.url must not be empty"
  | .zeroInitialBackoff => "stream.initial_backoff_ms must be greater than zero"
  | .maxBackoffBelowInitial maximum initial =>
    "stream.max_backoff_ms (" ++ toString maximum.milliseconds ++
      ") must be at least initial_backoff_ms (" ++ toString initial.milliseconds ++ ")"
  | .zeroDebounce => "stream.debounce_ms must be greater than zero"
  | .blankLeaseKey => "leader.lease_key must not be empty"
  | .zeroHeartbeatInterval => "leader.heartbeat_interval_ms must be greater than zero"
  | .ttlNotAboveHeartbeat ttl heartbeat =>
    "leader.lease_ttl_ms (" ++ toString ttl.milliseconds ++
      ") must be greater than heartbeat_interval_ms (" ++ toString heartbeat.milliseconds ++ ")"
  | .zeroSafetyCheckInterval => "leader.safety_check_interval_ms must be greater than zero"
  | .blankChannelName => "relay.channel_name must not be empty"
  | .intervalTooLong => "out-of-range value for u64 type"

/-- The first fault of the stream settings. -/
def StreamConfig.fault? (config : StreamConfig) : Option ConfigError :=
  if Text.isBlank config.url then some .blankUrl
  else if config.initialBackoff = .zero then some .zeroInitialBackoff
  else if config.maxBackoff < config.initialBackoff then
    some (.maxBackoffBelowInitial config.maxBackoff config.initialBackoff)
  else if config.debounce = .zero then some .zeroDebounce
  else none

/-- The interval at which every tab looks at the lease: as set, or two renewals. -/
def LeaderConfig.safetyCheckInterval (config : LeaderConfig) : Duration :=
  config.safetyCheckSetting.getD (config.heartbeatInterval.scale 2)

/-- The first fault of the election settings. -/
def LeaderConfig.fault? (config : LeaderConfig) : Option ConfigError :=
  if Text.isBlank config.leaseKey then some .blankLeaseKey
  else if config.heartbeatInterval = .zero then some .zeroHeartbeatInterval
  else if config.leaseTtl ≤ config.heartbeatInterval then
    some (.ttlNotAboveHeartbeat config.leaseTtl config.heartbeatInterval)
  else if config.safetyCheckInterval = .zero then some .zeroSafetyCheckInterval
  else none

/-- The fault of the relay settings. -/
def RelayConfig.fault? (config : RelayConfig) : Option ConfigError :=
  if Text.isBlank config.channelName then some .blankChannelName else none

/-- The first fault of a configuration, the stream first and the relay last. -/
def Config.fault? (config : Config) : Option ConfigError :=
  config.stream.fault? <|> config.leader.fault? <|> config.relay.fault?

/-- Why an identity was refused. -/
inductive IdentityError where
  | blankTab
  | blankSender
deriving DecidableEq

/-- The description of a refused identity for the user. -/
def IdentityError.message : IdentityError → String
  | .blankTab => "tab id must not be empty"
  | .blankSender => "relay sender id must not be empty"

/-- Why a tab could not be set up. -/
inductive SetupError where
  | invalidConfig (error : ConfigError)
  | missingIdentity (error : IdentityError)
deriving DecidableEq

/-- The description of a failed setup for the user. -/
def SetupError.message : SetupError → String
  | .invalidConfig error => "Invalid configuration: " ++ error.message
  | .missingIdentity error => "Missing identity: " ++ error.message

/-- Gives a configuration back if it has no fault. -/
def Config.validate (config : Config) : Except SetupError Unit :=
  match config.fault? with
  | some error => .error (.invalidConfig error)
  | none => .ok ()

end LiveTabs

import LiveTabs.Command
import LiveTabs.Proofs.Toml.FittingIntegers
import LiveTabs.Proofs.Toml.WrittenTables

/-!
# Printed settings

A configuration that was read from a settings file is printed as one that says it again. What a file
can say is in whole milliseconds, not too many, and never an interval of zero that may be absent
(`Config.IsSettable`). A configuration read from a file is so, because every integer of a file fits;
one that is so can be printed, and the printed tables have its values under the keys by which they
are looked up.
-/

namespace LiveTabs

open Toml (Node Members Says IsBareKey)

/-- An interval that a settings file can say. -/
structure Duration.IsSettable (interval : Duration) : Prop where
  whole : interval = .ofMilliseconds interval.milliseconds
  fits : interval.milliseconds ≤ Settings.greatestInteger

/-- An interval that may be absent, as a settings file can say it: zero says that it is absent. -/
structure Duration.IsOptionalSettable (setting : Option Duration) : Prop where
  nonzero : setting ≠ some .zero
  settable : ∀ interval, setting = some interval → interval.IsSettable

/-- Stream settings that a file can say. -/
structure StreamConfig.IsSettable (config : StreamConfig) : Prop where
  initialBackoff : config.initialBackoff.IsSettable
  maxBackoff : config.maxBackoff.IsSettable
  debounce : config.debounce.IsSettable
  disconnectWarning : Duration.IsOptionalSettable config.disconnectWarning

/-- Election settings that a file can say. -/
structure LeaderConfig.IsSettable (config : LeaderConfig) : Prop where
  heartbeatInterval : config.heartbeatInterval.IsSettable
  leaseTtl : config.leaseTtl.IsSettable
  safetyCheckSetting : Duration.IsOptionalSettable config.safetyCheckSetting

/-- A configuration that a file can say. Every text can be said. -/
structure Config.IsSettable (config : Config) : Prop where
  stream : config.stream.IsSettable
  leader : config.leader.IsSettable

namespace Settings

/-- Whole milliseconds that fit can be said. All intervals of a settings file are of this kind. -/
theorem settable_of_milliseconds {milliseconds : Nat} (fits : milliseconds ≤ greatestInteger) :
    (Duration.ofMilliseconds milliseconds).IsSettable :=
  ⟨by rw [Duration.milliseconds_ofMilliseconds], by rwa [Duration.milliseconds_ofMilliseconds]⟩

/-- An interval that was read from a fitting value can be said again, because nothing is cut off
from it. -/
theorem settable_of_interval {node : Node} {interval : Duration} (fits : node.Fits)
    (read : interval? node = some interval) : interval.IsSettable := by
  unfold interval? at read
  split at read
  · split at read
    · cases read
      cases fits with
      | scalar fits =>
        have bound : _ ≤ (greatestInteger : Int) := fits
        exact settable_of_milliseconds (by omega)
    · cases read
  · cases read

/-- An interval that may be absent, read from a fitting value, can be said. It is absent if it was
said to be zero, and so it is said again. -/
theorem settable_of_optional_interval {node : Node} {setting : Option Duration} (fits : node.Fits)
    (read : optionalInterval? node = some setting) : Duration.IsOptionalSettable setting := by
  obtain ⟨interval, present, rfl⟩ := Option.map_eq_some_iff.mp read
  have settable := settable_of_interval fits present
  split
  · exact ⟨by simp, by simp⟩
  · rename_i nonzero
    exact ⟨by simpa using nonzero, by simpa using settable⟩

/-- What holds of the default and of every value that is read from a fitting one holds. -/
theorem of_or_default {α : Type} {read : Node → Option α} {default value : α}
    {found : Option Node} {holds : α → Prop}
    (given : orDefault read default found = some value) (standard : holds default)
    (fits : ∀ node, found = some node → node.Fits)
    (reads : ∀ node value, node.Fits → read node = some value → holds value) : holds value := by
  cases found with
  | none =>
    cases given
    exact standard
  | some node => exact reads node value (fits node rfl) given

/-- What a fitting value says about its keys fits, whether it is a table or a list of values in
order. -/
theorem fits_of_values {keys : List String} {node : Node} {values : List (Option Node)}
    (fits : node.Fits) (read : valuesOf keys node = some values) :
    ∀ found ∈ values, ∀ value, found = some value → value.Fits := by
  have placed (items : List Node) (fits : ∀ item ∈ items, item.Fits) :
      ∀ found ∈ (List.range keys.length).map fun place => items[place]?,
        ∀ value, found = some value → value.Fits := by
    intro found listed value present
    obtain ⟨place, -, rfl⟩ := List.mem_map.mp listed
    exact fits value (List.mem_of_getElem? present)
  cases fits with
  | text content => cases read
  | @scalar content fits =>
    cases content with
    | moment =>
      cases read
      intro found listed value present
      obtain ⟨key, -, rfl⟩ := List.mem_map.mp listed
      cases present
    | _ => cases read
  | array fits =>
    cases read
    exact placed _ fits
  | @table origin members fits =>
    cases read
    intro found listed value present
    obtain ⟨key, -, rfl⟩ := List.mem_map.mp listed
    exact Members.Fits.get? fits present
  | @tables earlier last fitsEarlier fitsLast =>
    cases read
    have fitsAll := List.forall_mem_append.mpr
      ⟨fitsEarlier, List.forall_mem_singleton.mpr fitsLast⟩
    refine placed _ fun item listed => ?_
    obtain ⟨members, among, rfl⟩ := List.mem_map.mp listed
    exact .table _ (fitsAll members among)

/-- The standard stream settings can be said, so a table that leaves some of them out can be as
well. -/
theorem standard_stream_settable : StreamConfig.IsSettable {} :=
  ⟨settable_of_milliseconds (by decide), settable_of_milliseconds (by decide),
    settable_of_milliseconds (by decide),
    ⟨by decide, fun _ same => Option.some.inj same ▸ settable_of_milliseconds (by decide)⟩⟩

/-- Stream settings that were read can be said, those that the file says nothing about included. -/
theorem settable_of_stream {node : Node} {config : StreamConfig} (fits : node.Fits)
    (read : stream? node = some config) : config.IsSettable := by
  obtain ⟨values, named, read⟩ := Option.bind_eq_some_iff.mp read
  have fitsValues := fits_of_values fits named
  split at read
  · simp only [List.forall_mem_cons] at fitsValues
    obtain ⟨-, fitsInitial, fitsMaximum, fitsDebounce, fitsWarning, -⟩ := fitsValues
    obtain ⟨url, -, read⟩ := Option.bind_eq_some_iff.mp read
    obtain ⟨initial, readInitial, read⟩ := Option.bind_eq_some_iff.mp read
    obtain ⟨maximum, readMaximum, read⟩ := Option.bind_eq_some_iff.mp read
    obtain ⟨debounce, readDebounce, read⟩ := Option.bind_eq_some_iff.mp read
    obtain ⟨warning, readWarning, read⟩ := Option.bind_eq_some_iff.mp read
    cases read
    obtain ⟨initialStandard, maximumStandard, debounceStandard, warningStandard⟩ :=
      standard_stream_settable
    exact ⟨of_or_default readInitial initialStandard fitsInitial fun _ _ => settable_of_interval,
      of_or_default readMaximum maximumStandard fitsMaximum fun _ _ => settable_of_interval,
      of_or_default readDebounce debounceStandard fitsDebounce fun _ _ => settable_of_interval,
      of_or_default readWarning warningStandard fitsWarning
        fun _ _ => settable_of_optional_interval⟩
  · cases read

/-- The standard election settings can be said, so a table that leaves some of them out can be as
well. -/
theorem standard_leader_settable : LeaderConfig.IsSettable {} :=
  ⟨settable_of_milliseconds (by decide), settable_of_milliseconds (by decide),
    ⟨by decide, by simp⟩⟩

/-- Election settings that were read can be said, those that the file says nothing about
included. -/
theorem settable_of_leader {node : Node} {config : LeaderConfig} (fits : node.Fits)
    (read : leader? node = some config) : config.IsSettable := by
  obtain ⟨values, named, read⟩ := Option.bind_eq_some_iff.mp read
  have fitsValues := fits_of_values fits named
  split at read
  · simp only [List.forall_mem_cons] at fitsValues
    obtain ⟨-, fitsHeartbeat, fitsTtl, fitsCheck, -⟩ := fitsValues
    obtain ⟨key, -, read⟩ := Option.bind_eq_some_iff.mp read
    obtain ⟨heartbeat, readHeartbeat, read⟩ := Option.bind_eq_some_iff.mp read
    obtain ⟨ttl, readTtl, read⟩ := Option.bind_eq_some_iff.mp read
    obtain ⟨check, readCheck, read⟩ := Option.bind_eq_some_iff.mp read
    cases read
    obtain ⟨heartbeatStandard, ttlStandard, checkStandard⟩ := standard_leader_settable
    exact ⟨of_or_default readHeartbeat heartbeatStandard fitsHeartbeat
        fun _ _ => settable_of_interval,
      of_or_default readTtl ttlStandard fitsTtl fun _ _ => settable_of_interval,
      of_or_default readCheck checkStandard fitsCheck fun _ _ => settable_of_optional_interval⟩
  · cases read

/-- A configuration that was read from fitting tables can be said, table by table. -/
theorem settable_of_config {members : Members} {config : Config} (fits : members.Fits)
    (read : config? members = some config) : config.IsSettable := by
  obtain ⟨stream, readStream, read⟩ := Option.bind_eq_some_iff.mp read
  obtain ⟨leader, readLeader, read⟩ := Option.bind_eq_some_iff.mp read
  obtain ⟨relay, -, read⟩ := Option.bind_eq_some_iff.mp read
  cases read
  exact ⟨of_or_default readStream standard_stream_settable (fun _ => fits.get?)
      fun _ _ => settable_of_stream,
    of_or_default readLeader standard_leader_settable (fun _ => fits.get?)
      fun _ _ => settable_of_leader⟩

/-- An interval as a value of a settings file. -/
def intervalNode (interval : Duration) : Node := .scalar (.integer interval.milliseconds)

/-- The members of the table of the stream settings. -/
def streamMembers (config : StreamConfig) : Members := [
  ("url", .text config.url),
  ("initial_backoff_ms", intervalNode config.initialBackoff),
  ("max_backoff_ms", intervalNode config.maxBackoff),
  ("debounce_ms", intervalNode config.debounce),
  ("disconnect_warning_ms", intervalNode (config.disconnectWarning.getD .zero))]

/-- The member for the regular look at the lease, if its interval is set. -/
def checkMembers : Option Duration → Members
  | some interval => [("safety_check_interval_ms", intervalNode interval)]
  | none => []

/-- The members of the table of the election settings. -/
def leaderMembers (config : LeaderConfig) : Members := [
  ("lease_key", .text config.leaseKey),
  ("heartbeat_interval_ms", intervalNode config.heartbeatInterval),
  ("lease_ttl_ms", intervalNode config.leaseTtl)] ++ checkMembers config.safetyCheckSetting

/-- The members of the table of the relay settings. -/
def relayMembers (config : RelayConfig) : Members := [("channel_name", .text config.channelName)]

/-- The tables of a configuration. -/
def tablesOf (config : Config) : List (String × Members) := [
  ("stream", streamMembers config.stream),
  ("leader", leaderMembers config.leader),
  ("relay", relayMembers config.relay)]

/-- A line with a text says that the text is given to the key, in whichever way the text has to be
quoted. -/
theorem says_text (key text : String) (isBare : IsBareKey key) :
    Says (writeText key text) [.assign [key] (.text text)] :=
  .line isBare (Toml.writes_quoted text)

/-- An interval that can be said is written in a line that says it. Its milliseconds fit into 63
bits, so nothing of them is cut off. -/
theorem says_interval (key : String) (isBare : IsBareKey key) {interval : Duration}
    (settable : interval.IsSettable) :
    ∃ written, writeInterval key interval = some written ∧
      Says written [.assign [key] (intervalNode interval)] := by
  have fits : interval.milliseconds ≤ 9223372036854775807 := settable.fits
  have uncut : interval.milliseconds % 18446744073709551616 = interval.milliseconds :=
    Nat.mod_eq_of_lt (by omega)
  refine ⟨writeLine key (Json.decimalDigits [] interval.milliseconds), ?_,
    .line isBare (Toml.writes_decimal settable.fits)⟩
  rw [writeInterval, uncut]
  exact if_pos settable.fits

/-- An interval that is absent is written as zero, and zero can be said. -/
theorem settable_or_zero {setting : Option Duration}
    (settable : Duration.IsOptionalSettable setting) : (setting.getD .zero).IsSettable := by
  cases setting with
  | none => exact ⟨by decide, by decide⟩
  | some interval => exact settable.settable interval rfl

/-- The heading of a table says that the table is opened. -/
theorem says_heading (heading name : String) (isBare : IsBareKey name)
    (spelled : heading.toList = '[' :: name.toList ++ [']', '\n']) :
    Says heading.toList [.openTable [name]] := by
  rw [spelled]
  exact .header isBare

/-- Stream settings that can be said are written as their table, which begins with a bracket. -/
theorem says_stream {config : StreamConfig} (settable : config.IsSettable) :
    ∃ written, writeStream config = some written ∧ written.head? = some '[' ∧
      Says written (Toml.tableStatements ("stream", streamMembers config)) := by
  have opens := says_heading "[stream]\n" "stream" (by decide) (by decide)
  have url := says_text "url" config.url (by decide)
  obtain ⟨initial, writesInitial, initialSaid⟩ :=
    says_interval "initial_backoff_ms" (by decide) settable.initialBackoff
  obtain ⟨maximum, writesMaximum, maximumSaid⟩ :=
    says_interval "max_backoff_ms" (by decide) settable.maxBackoff
  obtain ⟨debounce, writesDebounce, debounceSaid⟩ :=
    says_interval "debounce_ms" (by decide) settable.debounce
  obtain ⟨warning, writesWarning, warningSaid⟩ :=
    says_interval "disconnect_warning_ms" (by decide)
      (settable_or_zero settable.disconnectWarning)
  refine ⟨_, ?_, ?_, ((((opens.append url).append initialSaid).append maximumSaid).append
    debounceSaid).append warningSaid⟩
  · simp [writeStream, writesInitial, writesMaximum, writesDebounce, writesWarning]
  · simp

/-- The line for the regular look at the lease is written if its interval is set. It is the only
line that may be missing. -/
theorem says_check {setting : Option Duration}
    (settable : Duration.IsOptionalSettable setting) :
    ∃ written, (match setting with
        | some interval => writeInterval "safety_check_interval_ms" interval
        | none => some []) = some written ∧
      Says written ((checkMembers setting).map fun member => .assign [member.1] member.2) := by
  cases setting with
  | none => exact ⟨[], rfl, .nil⟩
  | some interval =>
    exact says_interval "safety_check_interval_ms" (by decide)
      (settable.settable interval rfl)

/-- Election settings that can be said are written as their table, with or without the line that may
be missing. -/
theorem says_leader {config : LeaderConfig} (settable : config.IsSettable) :
    ∃ written, writeLeader config = some written ∧
      Says written (Toml.tableStatements ("leader", leaderMembers config)) := by
  have opens := says_heading "[leader]\n" "leader" (by decide) (by decide)
  have key := says_text "lease_key" config.leaseKey (by decide)
  obtain ⟨heartbeat, writesHeartbeat, heartbeatSaid⟩ :=
    says_interval "heartbeat_interval_ms" (by decide) settable.heartbeatInterval
  obtain ⟨ttl, writesTtl, ttlSaid⟩ :=
    says_interval "lease_ttl_ms" (by decide) settable.leaseTtl
  obtain ⟨check, writesCheck, checkSaid⟩ := says_check settable.safetyCheckSetting
  refine ⟨_, ?_, (((opens.append key).append heartbeatSaid).append ttlSaid).append checkSaid⟩
  simp only [writeLeader, writesHeartbeat, writesTtl, Option.bind_eq_bind, Option.bind_some]
  generalize config.safetyCheckSetting = setting at writesCheck
  cases setting with
  | none =>
    cases writesCheck
    rfl
  | some interval =>
    dsimp only at writesCheck ⊢
    rw [writesCheck]
    rfl

/-- The relay settings are written as their table. -/
theorem says_relay (config : RelayConfig) :
    Says (writeRelay config) (Toml.tableStatements ("relay", relayMembers config)) :=
  (says_heading "[relay]\n" "relay" (by decide) (by decide)).append
    (says_text "channel_name" config.channelName (by decide))

/-- A configuration that can be said is printed as its tables, one after the other with blank lines
between them. -/
theorem says_settings {config : Config} (settable : config.IsSettable) :
    ∃ printed, config.toSettings = .ok printed ∧ printed.toList.head? = some '[' ∧
      Says printed.toList ((tablesOf config).flatMap Toml.tableStatements) := by
  obtain ⟨stream, writesStream, begins, streamSaid⟩ := says_stream settable.stream
  obtain ⟨leader, writesLeader, leaderSaid⟩ := says_leader settable.leader
  have said := (((streamSaid.append .blank).append leaderSaid).append .blank).append
    (says_relay config.relay)
  refine ⟨String.ofList (stream ++ ['\n'] ++ leader ++ ['\n'] ++ writeRelay config.relay),
    ?_, ?_, ?_⟩
  · simp [Config.toSettings, writesStream, writesLeader]
  · simp [List.head?_append, begins]
  · simpa [tablesOf] using said

/-- An interval that can be said is read from its value, as it was before it was written. -/
theorem interval_read_back {interval : Duration} (settable : interval.IsSettable) :
    interval? (intervalNode interval) = some interval := by
  rw [intervalNode, interval?, if_pos (Int.natCast_nonneg _), Int.toNat_natCast, ← settable.whole]

/-- An interval that may be absent is read from its value, and from zero if it is absent. -/
theorem optional_interval_read_back {setting : Option Duration}
    (settable : Duration.IsOptionalSettable setting) :
    optionalInterval? (intervalNode (setting.getD .zero)) = some setting := by
  rw [optionalInterval?, interval_read_back (settable_or_zero settable)]
  cases setting with
  | none => rfl
  | some interval =>
    have nonzero : interval ≠ .zero := fun same => settable.nonzero (congrArg some same)
    simp [nonzero]

/-- Stream settings that can be said are read from their table, each under its own key. -/
theorem stream_read_back {config : StreamConfig} (settable : config.IsSettable)
    (origin : Toml.Origin) : stream? (.table origin (streamMembers config)) = some config := by
  simp [stream?, valuesOf, streamKeys, streamMembers, Members.get?, orDefault, text?,
    interval_read_back settable.initialBackoff, interval_read_back settable.maxBackoff,
    interval_read_back settable.debounce, optional_interval_read_back settable.disconnectWarning]

/-- What is said about the regular look at the lease is read back; if nothing is said, it is not
set. -/
theorem check_read_back {config : LeaderConfig} (settable : config.IsSettable) :
    orDefault optionalInterval? none
        (Members.get? (leaderMembers config) "safety_check_interval_ms") =
      some config.safetyCheckSetting := by
  have optional := optional_interval_read_back settable.safetyCheckSetting
  cases set : config.safetyCheckSetting with
  | none => simp [leaderMembers, checkMembers, set, Members.get?, orDefault]
  | some interval =>
    rw [set] at optional
    simpa [leaderMembers, checkMembers, set, Members.get?, orDefault] using optional

/-- Election settings that can be said are read from their table, each under its own key. -/
theorem leader_read_back {config : LeaderConfig} (settable : config.IsSettable)
    (origin : Toml.Origin) : leader? (.table origin (leaderMembers config)) = some config := by
  have key : Members.get? (leaderMembers config) "lease_key" = some (.text config.leaseKey) := by
    simp [leaderMembers, Members.get?]
  have heartbeat : Members.get? (leaderMembers config) "heartbeat_interval_ms" =
      some (intervalNode config.heartbeatInterval) := by
    simp [leaderMembers, Members.get?]
  have ttl : Members.get? (leaderMembers config) "lease_ttl_ms" =
      some (intervalNode config.leaseTtl) := by
    simp [leaderMembers, Members.get?]
  have check := check_read_back settable
  simp only [leader?, valuesOf, leaderKeys, List.map_cons, List.map_nil, Option.bind_eq_bind,
    Option.bind_some, key, heartbeat, ttl, check]
  simp [orDefault, text?, interval_read_back settable.heartbeatInterval,
    interval_read_back settable.leaseTtl]

/-- A configuration that can be said is read from its tables. This is the half of the round trip
that has nothing to do with texts. -/
theorem config_read_back {config : Config} (settable : config.IsSettable) :
    config? ((tablesOf config).map fun table => (table.1, .table .header table.2)) =
      some config := by
  have relay : relay? (.table .header (relayMembers config.relay)) = some config.relay := by
    simp [relay?, valuesOf, relayKeys, relayMembers, Members.get?, orDefault, text?]
  simp [config?, tablesOf, Members.get?, orDefault, stream_read_back settable.stream,
    leader_read_back settable.leader, relay]

/-- The tables of a configuration have different keys, so no line of the printed file is refused. -/
theorem distinct_keys (config : Config) :
    ∀ table ∈ tablesOf config, (table.2.map Prod.fst).Nodup := by
  have leader : ((leaderMembers config.leader).map Prod.fst).Nodup := by
    unfold leaderMembers
    cases config.leader.safetyCheckSetting <;> simp [checkMembers]
  simpa [tablesOf, streamMembers, relayMembers] using leader

end Settings

namespace Config

/-- What is printed of a configuration that can be said is read as the same configuration, if that
is valid. -/
theorem printed_of_settable {config : Config} (settable : config.IsSettable)
    (valid : config.fault? = none) :
    ∃ printed, config.toSettings = .ok printed ∧ ofSettings printed = .ok config := by
  obtain ⟨printed, prints, begins, said⟩ := Settings.says_settings settable
  have names : ((Settings.tablesOf config).map Prod.fst).Nodup := by
    simp [Settings.tablesOf]
  have read := Toml.of_written_tables begins said names (Settings.distinct_keys config)
  refine ⟨printed, prints, ?_⟩
  simp [ofSettings, read, Settings.config_read_back settable, validate, valid]

/-- A configuration that was read can be said, and is valid: the file was checked when it was
read. -/
theorem settable_of_settings {text : String} {config : Config}
    (read : ofSettings text = .ok config) : config.IsSettable ∧ config.fault? = none := by
  unfold ofSettings at read
  split at read
  · cases read
  · rename_i found made
    obtain ⟨members, tables, settings⟩ := Option.bind_eq_some_iff.mp made
    have settable := Settings.settable_of_config (Members.fits_of_text tables) settings
    cases fault : found.fault? with
    | some error => simp [validate, fault] at read
    | none =>
      have same : found = config := by simpa [validate, fault] using read
      subst same
      exact ⟨settable, fault⟩

/-- The configuration with another address of the stream, if one is given. -/
def withUrl (config : Config) : Option String → Config
  | some url => { config with stream := { config.stream with url } }
  | none => config

/-- Any address can be said, because any text can be quoted. -/
theorem IsSettable.with_url {config : Config} (settable : config.IsSettable) (url : Option String) :
    (config.withUrl url).IsSettable := by
  cases url with
  | none => exact settable
  | some url =>
    obtain ⟨⟨initialBackoff, maxBackoff, debounce, disconnectWarning⟩, leader⟩ := settable
    exact ⟨⟨initialBackoff, maxBackoff, debounce, disconnectWarning⟩, leader⟩

/-- An address that is not blank is as good as another: nothing else about it is checked. -/
theorem valid_with_url {config : Config} (valid : config.fault? = none) {url : Option String}
    (named : ∀ given, url = some given → Text.isBlank given = false) :
    (config.withUrl url).fault? = none := by
  cases url with
  | none => exact valid
  | some given =>
    have filled : ¬ Text.isBlank (config.withUrl (some given)).stream.url = true :=
      Bool.not_eq_true _ ▸ named given rfl
    have stream : config.stream.fault? = none := by
      cases fault : config.stream.fault? with
      | none => rfl
      | some error => simp [fault?, fault] at valid
    have renamed : (config.withUrl (some given)).stream.fault? = none := by
      unfold StreamConfig.fault? at stream ⊢
      split at stream
      · cases stream
      · rw [if_neg filled]
        exact stream
    rw [fault?, stream] at valid
    rw [fault?, renamed]
    exact valid

/-- For every configuration that was read from a settings file, also with another address of the
stream that is not blank, a settings file is printed, and what is printed is read as that
configuration.

Proof: all integers of a file fit, so the intervals that were read can be written again. Each line
of the print is scanned and read as its statement, whichever form its text is written in; the
statements fill the tables that the configuration stands for, its values are found there under their
keys, and it is as valid as before. -/
theorem printed_settings_are_read_back {text : String} {config : Config}
    (read : ofSettings text = .ok config) {url : Option String}
    (named : ∀ given, url = some given → Text.isBlank given = false) :
    ∃ printed, (config.withUrl url).toSettings = .ok printed ∧
      ofSettings printed = .ok (config.withUrl url) := by
  obtain ⟨settable, valid⟩ := settable_of_settings read
  exact printed_of_settable (settable.with_url url) (valid_with_url valid named)

/-- Settings with escapes in a key, digits in groups, a warning that is switched off and no interval
of the regular look. -/
def oddSettings : String :=
  "stream = \x7b url = '/events', disconnect_warning_ms = 0 \x7d\n" ++
  "[leader]\nlease_key = \"\\u00e9 \\\"key\\\"\"\nlease_ttl_ms = 0x7fff_ffff_ffff_ffff\n"

/-- An address with both marks, a backslash, several lines, a control character and a letter that is
not ASCII. -/
def oddUrl : String := "'''\"\"\"\\\n\x01é"

/-- They are read back as they are printed, with the address that was put in. -/
theorem odd_settings_are_read_back :
    ∃ config, ofSettings oddSettings = .ok config ∧ config.stream.disconnectWarning = none ∧
      config.leader.safetyCheckSetting = none ∧
      ∃ printed, (config.withUrl (some oddUrl)).toSettings = .ok printed ∧
        ofSettings printed = .ok (config.withUrl (some oddUrl)) := by
  have found : ((ofSettings oddSettings).toOption.any fun config => decide (
      config.stream.disconnectWarning = none ∧ config.leader.safetyCheckSetting = none ∧
        config.leader.leaseKey = "é \"key\"")) = true := by
    decide +kernel
  obtain ⟨config, present, holds⟩ := (Option.any_eq_true _ _).mp found
  obtain ⟨unwarned, unset, -⟩ := of_decide_eq_true holds
  have read : ofSettings oddSettings = .ok config := by
    cases result : ofSettings oddSettings with
    | error fault => simp [result, Except.toOption] at present
    | ok other => simpa [result, Except.toOption] using present
  refine ⟨config, read, unwarned, unset, printed_settings_are_read_back read ?_⟩
  rintro _ ⟨⟩
  decide +kernel

end Config

/-- Whatever file and address the program is given, the configuration that it then has is printed,
and what is printed is read as that configuration. -/
theorem Arguments.printed_of_load {arguments : Arguments} {content : String → Option String}
    {config : Config} (loaded : arguments.loadConfig content = .ok config) :
    ∃ printed, config.toSettings = .ok printed ∧ Config.ofSettings printed = .ok config := by
  unfold loadConfig at loaded
  cases based : arguments.baseConfig content with
  | error fault =>
    rw [based] at loaded
    cases loaded
  | ok base =>
    have settable : base.IsSettable := by
      unfold baseConfig at based
      split at based
      · cases based
        exact ⟨Settings.standard_stream_settable, Settings.standard_leader_settable⟩
      split at based
      · cases based
      split at based
      · rename_i read
        cases based
        exact (Config.settable_of_settings read).1
      · cases based
    rw [based] at loaded
    have addressed : (match arguments.url with
        | some url => { base with stream := { base.stream with url } }
        | none => base) = base.withUrl arguments.url := by
      cases arguments.url <;> rfl
    have checked : (do
        CommandError.ofSetup (base.withUrl arguments.url).validate
        pure (base.withUrl arguments.url)) = Except.ok config := by
      rw [← addressed]
      exact loaded
    cases fault : (base.withUrl arguments.url).fault? with
    | some error =>
      rw [Config.validate, fault] at checked
      cases checked
    | none =>
      rw [Config.validate, fault] at checked
      cases checked
      exact Config.printed_of_settable (settable.with_url arguments.url) fault

end LiveTabs

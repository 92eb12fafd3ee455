import LiveTabs.Config
import LiveTabs.Issue.Wire
import LiveTabs.Outcome
import LiveTabs.Stream.Backoff
import LiveTabs.Stream.State
import LiveTabs.Stream.Window

/-!
# Subscriptions

A subscription keeps one connection to the event stream while it is active. A connection that fails
is dialled again after a growing delay, and the user is warned if that takes long. Events are
reported as they come, collected in a window, and reported together when no event has come for a
while; deletions are also reported at once.

```text
idle ──start──▶ connecting ──opened──▶ connected
  │                 │                      │
  │                 └───────failed─────────┴──▶ failed ──▶ waiting ──deadline──▶ connecting
  └──no network──▶ unsupported
any but unsupported ──stop──▶ stopped ──start──▶ idle ──▶ connecting
```

Each connection has a number of its own, greater than all before it, and signals with another number
than that of the present connection are ignored.
-/

namespace LiveTabs

/-- A subscription to the event stream. -/
structure Subscription where
  config : StreamConfig
  state : StreamState := .idle
  backoff : Backoff
  /-- The present connection. -/
  connection : Option Nat := none
  /-- The number of the next connection. Hosts count in 64 bits, which no run of a tab uses up. -/
  nextConnection : Nat := 1
  /-- When to dial again. -/
  reconnectAt : Option Instant := none
  /-- When to close the window of events. -/
  debounceAt : Option Instant := none
  /-- When to warn that the connection is lost. -/
  warningAt : Option Instant := none
  /-- When the connection was lost, if it is. -/
  lostAt : Option Instant := none
  /-- When a connection last gave a sign of life. -/
  lastHeartbeat : Option Instant := none
  /-- The events that are not reported together yet. -/
  window : Window := {}

namespace Subscription

/-- A subscription after an operation, and what was done. -/
abbrev Result := Outcome StreamEffect Subscription

/-- A subscription that is not started. -/
def create (config : StreamConfig) : Subscription :=
  { config, backoff := { initial := config.initialBackoff, maximum := config.maxBackoff } }

/-- Sets up a subscription with valid settings. -/
def create? (config : StreamConfig) : Except SetupError Subscription :=
  match config.fault? with
  | some error => .error (.invalidConfig error)
  | none => .ok (create config)

/-- Whether the connection is open. -/
def isConnected (subscription : Subscription) : Bool := subscription.state == .connected

/-- The number of failures since the connection was last open. -/
def retryAttempt (subscription : Subscription) : Nat := subscription.backoff.attempt

/-- The number of issues in the window. -/
def pendingSize (subscription : Subscription) : Nat := subscription.window.size

/-- The next instant at which the subscription has something to do. -/
def nextDeadline (subscription : Subscription) : Option Instant :=
  Instant.earliest (Instant.earliest subscription.reconnectAt subscription.debounceAt)
    subscription.warningAt

/-- Changes the subscription without any effect. -/
def quietly (change : Subscription → Subscription) (subscription : Subscription) : Result :=
  ⟨change subscription, []⟩

/-- Goes over to a state and reports it if it is a new one. -/
def moveTo (state : StreamState) (subscription : Subscription) : Result :=
  if subscription.state = state then ⟨subscription, []⟩
  else ⟨{ subscription with state }, [.report (.stateChanged state)]⟩

/-- Hangs up the present connection. -/
def hangUp (subscription : Subscription) : Result :=
  match subscription.connection with
  | none => ⟨subscription, []⟩
  | some connection => ⟨{ subscription with connection := none }, [.call (.hangUp connection)]⟩

/-- Notes when the connection was lost and when to warn of it, unless it was lost before. -/
def noteLoss (now : Instant) (subscription : Subscription) : Subscription :=
  match subscription.lostAt with
  | some _ => subscription
  | none =>
    { subscription with
      lostAt := some now
      warningAt := subscription.config.disconnectWarning.map now.after }

/-- Counts a failure and sets the deadline for dialling again. -/
def scheduleRetry (now : Instant) (subscription : Subscription) : Subscription :=
  { subscription with
    backoff := subscription.backoff.countFailure
    reconnectAt := some (now.after subscription.backoff.delay) }

/-- The connection failed: it is hung up and dialled again later. A failure in any other state than
while a connection is open or being opened is ignored. -/
def fail (now : Instant) (subscription : Subscription) : Result :=
  match subscription.state with
  | .connecting | .connected =>
    subscription.hangUp
      |>.andThen (moveTo .failed)
      |>.andThen (quietly (noteLoss now))
      |>.andThen (quietly (scheduleRetry now))
      |>.andThen (moveTo .waiting)
  | _ => ⟨subscription, []⟩

/-- Uses up the number of the next connection. -/
def numberNext (subscription : Subscription) : Subscription :=
  { subscription with nextConnection := subscription.nextConnection + 1 }

/-- Dials the address of the stream under the next number. -/
def dial (line : Line) (now : Instant) (subscription : Subscription) : Result :=
  let number := subscription.nextConnection
  let attempt : Subscription → Result := fun dialling =>
    let call := .call (.dial number dialling.config.url line.accepting)
    if line.accepting then ⟨{ dialling with connection := some number }, [call]⟩
    else (Outcome.mk dialling [call]).andThen (fail now)
  subscription.hangUp
    |>.andThen (quietly numberNext)
    |>.andThen (moveTo .connecting)
    |>.andThen attempt

/-- Starts the subscription. Nothing happens while it is active or if it is unsupported. -/
def start (line : Line) (now : Instant) (subscription : Subscription) : Result :=
  let launch : Subscription → Result := fun idle =>
    if line.supported then dial line now { idle with backoff := idle.backoff.reset }
    else moveTo .unsupported idle
  match subscription.state with
  | .idle => launch subscription
  | .stopped => (moveTo .idle subscription).andThen launch
  | _ => ⟨subscription, []⟩

/-- Stops the subscription: no deadline, no pending event and no connection is left. An unsupported
subscription stays as it is. -/
def stop (subscription : Subscription) : Result :=
  if subscription.state = .unsupported then ⟨subscription, []⟩
  else
    let cleared := { subscription with
      reconnectAt := none, debounceAt := none, warningAt := none, lostAt := none
      window := subscription.window.clear }
    cleared.hangUp.andThen (moveTo .stopped)

/-- The connection is open: failures and the loss are forgotten. -/
def markOpen (now : Instant) (subscription : Subscription) : Result :=
  let found := { subscription with
    backoff := subscription.backoff.reset
    lastHeartbeat := some now, lostAt := none, warningAt := none }
  moveTo .connected found

/-- The reports of an event: a deletion is reported twice. -/
def eventReports (event : IssueEvent) : List StreamEffect :=
  match event.kind with
  | .deleted => [.report (.event event), .report (.deleted event)]
  | _ => [.report (.event event)]

/-- Takes in an event. Data that is no payload is dropped. -/
def takeIn (now : Instant) (kind : EventKind) (data : String) (subscription : Subscription) :
    Result :=
  match IssueEvent.ofPayload kind data with
  | .error _ => ⟨subscription, []⟩
  | .ok event =>
    let taken := { subscription with
      window := subscription.window.add event
      debounceAt := some (now.after subscription.config.debounce) }
    ⟨taken, eventReports event⟩

/-- A message came: a sign of life, which opens a connection that is not known to be open, and
perhaps an event about an issue. -/
def takeMessage (now : Instant) (name data : String) (subscription : Subscription) : Result :=
  let alive := { subscription with lastHeartbeat := some now }
  let opened : Result :=
    if alive.state = .connecting then markOpen now alive else ⟨alive, []⟩
  if name = heartbeatName then opened
  else match EventKind.ofName? name with
    | none => opened
    | some kind => opened.andThen (takeIn now kind data)

/-- A connection gives a signal. Signals of other connections than the present one are ignored. -/
def receive (now : Instant) (connection : Nat) (signal : StreamSignal)
    (subscription : Subscription) : Result :=
  if subscription.connection = some connection then
    match signal with
    | .opened => markOpen now subscription
    | .message name data => takeMessage now name data subscription
    | .failed _ => fail now subscription
  else ⟨subscription, []⟩

/-- Dials again if that is due. -/
def pollReconnect (line : Line) (now : Instant) (subscription : Subscription) : Result :=
  if Instant.isDue subscription.reconnectAt now then
    let cleared := { subscription with reconnectAt := none }
    if cleared.state = .waiting then dial line now cleared else ⟨cleared, []⟩
  else ⟨subscription, []⟩

/-- Closes the window of events if that is due. -/
def pollWindow (now : Instant) (subscription : Subscription) : Result :=
  if Instant.isDue subscription.debounceAt now then
    let (batch, window) := subscription.window.close now
    ⟨{ subscription with debounceAt := none, window },
      batch.toList.map fun batch => .report (.batch batch)⟩
  else ⟨subscription, []⟩

/-- Warns that the connection is lost if that is due. -/
def pollWarning (now : Instant) (subscription : Subscription) : Result :=
  if Instant.isDue subscription.warningAt now then
    ⟨{ subscription with warningAt := none },
      subscription.lostAt.toList.map fun lostAt =>
        .report (.disconnectWarning (Instant.elapsed lostAt now))⟩
  else ⟨subscription, []⟩

/-- Does everything that is due. -/
def poll (line : Line) (now : Instant) (subscription : Subscription) : Result :=
  (pollReconnect line now subscription).andThen (pollWindow now) |>.andThen (pollWarning now)

end Subscription

end LiveTabs

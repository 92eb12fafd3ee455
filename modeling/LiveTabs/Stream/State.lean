import LiveTabs.Issue

/-!
# States and reports of a subscription

A subscription to the event stream is in exactly one state. It reports every change of state, every
event, and what it makes of the events; it acts on the network by dialling and hanging up
connections, which are numbered.
-/

namespace LiveTabs

/-- The state of a subscription. -/
inductive StreamState where
  /-- Not started. -/
  | idle
  /-- A connection is being opened. -/
  | connecting
  /-- A connection is open. -/
  | connected
  /-- A new attempt will be made after a delay. -/
  | waiting
  /-- The connection has just failed. -/
  | failed
  | stopped
  /-- The host cannot connect at all. -/
  | unsupported
deriving DecidableEq

namespace StreamState

/-- The name of a state, for the user and on the channel. -/
def name : StreamState → String
  | .idle => "idle"
  | .connecting => "connecting"
  | .connected => "open"
  | .waiting => "waiting"
  | .failed => "error"
  | .stopped => "stopped"
  | .unsupported => "unsupported"

/-- All states. -/
def all : List StreamState :=
  [.idle, .connecting, .connected, .waiting, .failed, .stopped, .unsupported]

/-- The state with a given name. -/
def ofName? (name : String) : Option StreamState := all.find? fun state => state.name == name

/-- Every state is found under its name. -/
@[simp] theorem ofName?_name (state : StreamState) : ofName? state.name = some state := by
  cases state <;> rfl

/-- Whether a connection is open, being opened, or about to be tried again. -/
def isActive : StreamState → Bool
  | .connecting | .connected | .waiting | .failed => true
  | .idle | .stopped | .unsupported => false

end StreamState

/-- What a connection tells the subscription. -/
inductive StreamSignal where
  | opened
  /-- A named event with its data. -/
  | message (name data : String)
  /-- The connection failed or was dropped. -/
  | failed (reason : String)
deriving DecidableEq

/-- The name of the event by which the server shows that it is alive. -/
def heartbeatName : String := "heartbeat"

/-- What a subscription reports. -/
inductive StreamReport where
  /-- An event, before it is collected with others. -/
  | event (event : IssueEvent)
  /-- A deletion, at once. -/
  | deleted (event : IssueEvent)
  /-- The events of a window that was closed. -/
  | batch (batch : Batch)
  | stateChanged (state : StreamState)
  /-- The connection is still lost after this time. -/
  | disconnectWarning (disconnectedFor : Duration)

/-- What is done about a connection. -/
inductive NetworkCall where
  /-- Tries to open a connection, and whether that was taken up. -/
  | dial (connection : Nat) (url : String) (accepted : Bool)
  | hangUp (connection : Nat)
deriving DecidableEq

/-- What a subscription does. -/
inductive StreamEffect where
  | report (content : StreamReport)
  | call (call : NetworkCall)

namespace StreamEffect

/-- The reports among effects. -/
def reports (effects : List StreamEffect) : List StreamReport :=
  effects.filterMap fun effect => match effect with
    | .report content => some content
    | .call _ => none

/-- What effects do about connections. -/
def calls (effects : List StreamEffect) : List NetworkCall :=
  effects.filterMap fun effect => match effect with
    | .call made => some made
    | .report _ => none

/-- The calls of effects that follow each other follow each other. -/
@[simp] theorem calls_append (first second : List StreamEffect) :
    calls (first ++ second) = calls first ++ calls second :=
  List.filterMap_append

/-- A call comes first among the calls if it is the first effect. -/
@[simp] theorem calls_call (made : NetworkCall) (rest : List StreamEffect) :
    calls (.call made :: rest) = made :: calls rest := rfl

/-- A report is no call. -/
@[simp] theorem calls_report (content : StreamReport) (rest : List StreamEffect) :
    calls (.report content :: rest) = calls rest := rfl

/-- Without effects there are no calls. -/
@[simp] theorem calls_nil : calls [] = [] := rfl

end StreamEffect

/-- How the network answers for the time being. -/
structure Line where
  /-- Whether the host can connect at all. -/
  supported : Bool := true
  /-- Whether connections are taken up. -/
  accepting : Bool := true
deriving DecidableEq

end LiveTabs

import LiveTabs.Lease.Candidate
import LiveTabs.Relay
import LiveTabs.Stream.Subscription

/-!
# Tabs

A tab of the browser: a candidate in the election, a subscription to the event stream and a relay.
The leading tab runs its subscription and posts what it reports; the others keep theirs stopped and
show what the leader posts. The user is told the same either way. A tab that begins to follow asks
the leader for the state of the connection, which is otherwise posted only when it changes.
-/

namespace LiveTabs

/-- What the user of a tab is told. -/
inductive TabNote where
  | roleChanged (role : Role)
  /-- An event as it came; only in the leading tab. -/
  | event (event : IssueEvent)
  | deleted (event : IssueEvent)
  | batch (batch : Batch)
  | stateChanged (state : StreamState)
  | disconnectWarning (disconnectedFor : Duration)
  /-- The tab follows, and there is no channel on which to hear from the leader. -/
  | relayMissing

/-- What a tab does besides calling the storage. -/
inductive TabEffect where
  | tell (note : TabNote)
  | post (message : Message)
  | call (call : NetworkCall)

namespace TabEffect

/-- What the user is told among effects. -/
def notes (effects : List TabEffect) : List TabNote :=
  effects.filterMap fun effect => match effect with
    | .tell note => some note
    | _ => none

/-- The messages among effects. -/
def posts (effects : List TabEffect) : List Message :=
  effects.filterMap fun effect => match effect with
    | .post message => some message
    | _ => none

/-- What effects do about connections. -/
def calls (effects : List TabEffect) : List NetworkCall :=
  effects.filterMap fun effect => match effect with
    | .call made => some made
    | _ => none

/-- What the user is told by effects that follow each other. -/
@[simp] theorem notes_append (first second : List TabEffect) :
    notes (first ++ second) = notes first ++ notes second :=
  List.filterMap_append

/-- The messages of effects that follow each other. -/
@[simp] theorem posts_append (first second : List TabEffect) :
    posts (first ++ second) = posts first ++ posts second :=
  List.filterMap_append

/-- The calls of effects that follow each other. -/
@[simp] theorem calls_append (first second : List TabEffect) :
    calls (first ++ second) = calls first ++ calls second :=
  List.filterMap_append

/-- Effects that are nothing but calls are these calls. -/
@[simp] theorem calls_map_call (made : List NetworkCall) : calls (made.map .call) = made := by
  induction made with
  | nil => rfl
  | cons first rest inductionHypothesis => exact congrArg (first :: ·) inductionHypothesis

/-- Effects that are nothing but calls post nothing. -/
@[simp] theorem posts_map_call (made : List NetworkCall) : posts (made.map .call) = [] := by
  induction made with
  | nil => rfl
  | cons first rest inductionHypothesis => exact inductionHypothesis

/-- What one of several tabs did. -/
def ofTab (name : String) (effects : List (String × TabEffect)) : List TabEffect :=
  (effects.filter fun effect => effect.1 == name).map (·.2)

/-- What one of several tabs did in effects that follow each other. -/
@[simp] theorem of_tab_append (name : String) (first second : List (String × TabEffect)) :
    ofTab name (first ++ second) = ofTab name first ++ ofTab name second := by
  rw [ofTab, List.filter_append, List.map_append]
  rfl

/-- What one tab did is its own. -/
theorem of_tab_own (name : String) (effects : List TabEffect) :
    ofTab name (effects.map fun effect => (name, effect)) = effects := by
  simp [ofTab, List.filter_map, Function.comp_def]

/-- What one tab did is not what another did. -/
theorem of_tab_other {name other : String} (different : name ≠ other) (effects : List TabEffect) :
    ofTab other (effects.map fun effect => (name, effect)) = [] := by
  simp [ofTab, List.filter_map, Function.comp_def, different]

end TabEffect

/-- A tab. -/
structure Tab where
  candidate : Candidate
  subscription : Subscription
  relay : Relay
  /-- Whether the user was told that there is no channel. -/
  noticeShown : Bool := false

namespace Tab

/-- A tab after an operation, and what was done. -/
abbrev Result := Outcome TabEffect Tab

/-- Sets up a tab. The settings are looked at before the id. -/
def create (tabId : String) (config : Config) (hasChannel : Bool) : Except SetupError Tab := do
  config.validate
  let candidate ← Candidate.create tabId config.leader
  let relay ← Relay.create candidate.tabId hasChannel
  let subscription ← Subscription.create? config.stream
  pure { candidate, subscription, relay }

/-- The id of the tab. -/
def id (tab : Tab) : String := tab.candidate.tabId

/-- The present role of the tab. -/
def role (tab : Tab) : Option Role := tab.candidate.role

/-- The next instant at which the tab has something to do. -/
def nextDeadline (tab : Tab) : Option Instant :=
  Instant.earliest tab.candidate.nextDeadline tab.subscription.nextDeadline

/-- Posts a notice, if there is a channel. -/
def postEffects (tab : Tab) (notice : Notice) (now : Instant) : List TabEffect :=
  (tab.relay.post notice now).toList.map .post

/-- What the leading tab makes of a report: the user is told, and the other tabs are, except of
events that are going to be part of a batch. -/
def leadReport (tab : Tab) (now : Instant) : StreamReport → List TabEffect
  | .event event => [.tell (.event event)]
  | .deleted event => .tell (.deleted event) :: tab.postEffects (.deleted event) now
  | .batch batch => .tell (.batch batch) :: tab.postEffects (.update batch) now
  | .stateChanged state => .tell (.stateChanged state) :: tab.postEffects (.state state) now
  | .disconnectWarning disconnectedFor =>
    .tell (.disconnectWarning disconnectedFor) ::
      tab.postEffects (Relay.warning disconnectedFor) now

/-- What a tab makes of an effect of its subscription. Reports count only while the tab leads. -/
def forward (tab : Tab) (now : Instant) : StreamEffect → List TabEffect
  | .report report => if tab.candidate.isLeader then tab.leadReport now report else []
  | .call call => [.call call]

/-- Runs an operation of the subscription. -/
def subscribe (operation : Subscription → Subscription.Result) (now : Instant) (tab : Tab) :
    Result :=
  let outcome := operation tab.subscription
  ⟨{ tab with subscription := outcome.state }, outcome.effects.flatMap (tab.forward now)⟩

/-- What a tab that begins to follow says: it asks for the state of the connection, or tells the
user, once, that it cannot. -/
def announceFollowing (now : Instant) (tab : Tab) : Result :=
  if tab.relay.hasChannel then ⟨tab, tab.postEffects .sync now⟩
  else if tab.noticeShown then ⟨tab, []⟩
  else ⟨{ tab with noticeShown := true }, [.tell .relayMissing]⟩

/-- Takes up a role: the leader starts its subscription, a follower stops it. -/
def takeRole (line : Line) (now : Instant) (role : Role) (tab : Tab) : Result :=
  let told : Result := ⟨tab, [.tell (.roleChanged role)]⟩
  match role with
  | .leader => told.andThen (subscribe (Subscription.start line now) now)
  | .follower =>
    let stopActive : Subscription → Subscription.Result := fun subscription =>
      if subscription.state.isActive then subscription.stop else ⟨subscription, []⟩
    told.andThen (subscribe stopActive now) |>.andThen (announceFollowing now)

/-- Runs an operation of the candidate and takes up the role that it reports. -/
def elect (line : Line) (now : Instant)
    (operation : Candidate → Access (Candidate × Option Role)) (tab : Tab) : Access Result := do
  let (candidate, reported) ← operation tab.candidate
  let elected : Tab := { tab with candidate }
  match reported with
  | none => pure ⟨elected, []⟩
  | some role => pure (elected.takeRole line now role)

/-- The first election. -/
def init (line : Line) (now : Instant) (tab : Tab) : Access Result :=
  tab.elect line now (·.init now)

/-- Another tab changed the text under a key of the storage. -/
def noticeChange (line : Line) (now : Instant) (key : String) (tab : Tab) : Access Result :=
  tab.elect line now (·.noticeChange now key)

/-- Does everything that is due: first in the election, then in the subscription. -/
def poll (line : Line) (now : Instant) (tab : Tab) : Access Result := do
  let elected ← tab.elect line now (·.poll now)
  pure (elected.andThen (subscribe (Subscription.poll line now) now))

/-- A connection gives a signal. -/
def receiveSignal (now : Instant) (connection : Nat) (signal : StreamSignal) (tab : Tab) : Result :=
  tab.subscribe (Subscription.receive now connection signal) now

/-- What a follower makes of a notice of the leader. -/
def followNotice : Notice → List TabEffect
  | .update batch => [.tell (.batch batch)]
  | .state state => [.tell (.stateChanged state)]
  | .deleted event => [.tell (.deleted event)]
  | .warning milliseconds => [.tell (.disconnectWarning (.ofMilliseconds milliseconds))]
  | .sync => []

/-- What a tab makes of a message on the channel: the leader answers a question with the state of
its connection, and a follower shows everything else. -/
def receiveMessage (now : Instant) (message : Message) (tab : Tab) : List TabEffect :=
  match tab.relay.receive message with
  | none => []
  | some received =>
    match tab.role with
    | none => []
    | some .leader =>
      match received.notice with
      | .sync => tab.postEffects (.state tab.subscription.state) now
      | _ => []
    | some .follower => followNotice received.notice

/-- Closes the tab in order: the lease is given up and the subscription stopped, and the user is not
told any more. -/
def shutdown (tab : Tab) : Access Result := do
  let candidate ← tab.candidate.release
  let outcome := tab.subscription.stop
  let calls := (StreamEffect.calls outcome.effects).map TabEffect.call
  pure ⟨{ tab with candidate, subscription := outcome.state }, calls⟩

end Tab

end LiveTabs

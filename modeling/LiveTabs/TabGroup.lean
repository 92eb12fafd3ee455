import LiveTabs.Roster
import LiveTabs.Storage.Memory
import LiveTabs.Tab

/-!
# Groups of tabs

The tabs of one browser on one clock, one store and one queue of messages. Everything is done in
single steps: a tab does something, the clock is set, the queue is delivered, the store is
disturbed. A step tells what each tab did, in the order in which it was done; what tabs post goes to
the end of the queue unless posting fails.
-/

namespace LiveTabs

/-- A tab of a group, with what its host offers. -/
structure GroupMember where
  tab : Tab
  hasStorage : Bool := true
  line : Line := {}

/-- Tabs on one clock, one store and one queue. -/
structure TabGroup where
  now : Instant := .epoch
  store : SharedStore := {}
  /-- The posted messages that are not delivered yet, first to last. -/
  queue : List Message := []
  /-- Whether posting fails. -/
  broken : Bool := false
  members : Roster GroupMember := {}

namespace TabGroup

/-- A group after a step, and what each tab did. -/
abbrev Result := Outcome (String × TabEffect) TabGroup

/-- The storage that a member sees. -/
def storageOf (member : GroupMember) : Storage SharedStore :=
  if member.hasStorage then SharedStore.storage else Storage.absent

/-- Puts what a tab posted on the queue. -/
def accept (group : TabGroup) (effects : List TabEffect) : TabGroup :=
  if group.broken then group else { group with queue := group.queue ++ TabEffect.posts effects }

/-- The tab with a name does something; a name that is not in the group does nothing. -/
def act (name : String) (operation : GroupMember → Instant → Access Tab.Result)
    (group : TabGroup) : Result :=
  match group.members.get? name with
  | none => ⟨group, []⟩
  | some member =>
    let (outcome, store) := Access.run (storageOf member) group.store (operation member group.now)
    let members := group.members.update name fun member => { member with tab := outcome.state }
    ⟨accept { group with store, members } outcome.effects,
      outcome.effects.map fun effect => (name, effect)⟩

/-- Sets up a tab and puts it into the group under a name. -/
def join (group : TabGroup) (name tabId : String) (config : Config)
    (hasStorage hasChannel : Bool) (line : Line) : Except SetupError TabGroup := do
  let tab ← Tab.create tabId config hasChannel
  pure { group with members := group.members.enrol name { tab, hasStorage, line } }

/-- A tab is gone without a word. -/
def crash (name : String) (group : TabGroup) : TabGroup :=
  { group with members := group.members.remove name }

/-- The network answers a tab differently from now on. -/
def setLine (name : String) (change : Line → Line) (group : TabGroup) : TabGroup :=
  { group with
    members := group.members.update name fun member => { member with line := change member.line } }

/-- Sets the clock. -/
def setClock (now : Instant) (group : TabGroup) : TabGroup := { group with now }

/-- Something happens to the store. -/
def disturb (event : SharedStore.Event) (group : TabGroup) : TabGroup :=
  { group with store := group.store.apply event }

/-- A tab is started. -/
def init (name : String) : TabGroup → Result :=
  act name fun member now => member.tab.init member.line now

/-- A tab does what is due. -/
def poll (name : String) : TabGroup → Result :=
  act name fun member now => member.tab.poll member.line now

/-- The clock is set to the next deadline of a tab, if it has one, and the tab does what is due. -/
def pollNext (name : String) (group : TabGroup) : Result :=
  let deadline := (group.members.get? name).bind fun member => member.tab.nextDeadline
  poll name (group.setClock (deadline.getD group.now))

/-- A connection of a tab gives a signal; without a number, its present connection, or number 0. -/
def signal (name : String) (connection : Option Nat) (signal : StreamSignal) : TabGroup → Result :=
  act name fun member now =>
    let number := connection.getD (member.tab.subscription.connection.getD 0)
    pure (member.tab.receiveSignal now number signal)

/-- A tab learns that the text under a key was changed; without a key, under that of its lease. -/
def noticeChange (name : String) (key : Option String) : TabGroup → Result :=
  act name fun member now =>
    member.tab.noticeChange member.line now (key.getD member.tab.candidate.config.leaseKey)

/-- A message reaches a tab. -/
def receive (name : String) (message : Message) : TabGroup → Result :=
  act name fun member now => pure ⟨member.tab, member.tab.receiveMessage now message⟩

/-- A tab is closed in order; it stays in the group. -/
def shutdown (name : String) : TabGroup → Result :=
  act name fun member _ => member.tab.shutdown

/-- Does a step for each of the given tabs, one after the other. -/
def forEach (step : String → TabGroup → Result) (names : List String) (group : TabGroup) : Result :=
  names.foldl (fun result name => result.andThen (step name)) ⟨group, []⟩

/-- Every tab does what is due. -/
def pollAll (group : TabGroup) : Result := forEach poll group.members.names group

/-- Every tab but one learns that the text under a key was changed. -/
def notifyOthers (name : String) (key : Option String) (group : TabGroup) : Result :=
  forEach (noticeChange · key) (group.members.names.filter fun other => !(other == name)) group

/-- A message reaches every tab. -/
def receiveAll (message : Message) (group : TabGroup) : Result :=
  forEach (receive · message) group.members.names group

/-- The messages on the queue reach every tab, one message after the other. What is posted meanwhile
stays on the queue. -/
def deliver (group : TabGroup) : Result :=
  group.queue.foldl (fun result message => result.andThen (receiveAll message))
    ⟨{ group with queue := [] }, []⟩

end TabGroup

end LiveTabs

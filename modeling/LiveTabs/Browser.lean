import LiveTabs.Roster
import LiveTabs.Storage.Watched
import LiveTabs.Tab

/-!
# Browsers

The tabs of one browser, each of which runs by itself: it waits until something has come in or a
deadline has passed, takes that up, and goes on until nothing is left to do. What comes in is a
request to close, a signal of a connection, a change in the storage by another tab, or a message on
the channel; each of them is taken up alone and in this order.

Only one tab runs at a time. Tabs that have something to do stand in a queue, and the first of them
runs until it has to wait; what it does may put others at the end of the queue. Time stands still
while a tab runs. When time has moved on, the tabs whose deadline has passed run, those with earlier
deadlines first. Among equals the tab that has waited longest comes first.
-/

namespace LiveTabs

/-- A tab that runs by itself. -/
structure OpenTab where
  tab : Tab
  line : Line := {}
  /-- Its number as a user of the storage. -/
  storageNumber : Nat
  /-- Its number as a member of the channel, if there is a channel for it. -/
  channelNumber : Option Nat
  isStarted : Bool := false
  /-- Whether it was asked to close. -/
  isClosing : Bool := false
  /-- Signals of connections that were not taken up yet, first to last. -/
  signals : List (Nat × StreamSignal) := []

/-- Something that a tab takes up. -/
inductive TabInput where
  | start
  | close
  | signal (connection : Nat) (signal : StreamSignal)
  | news (key : String)
  | message (message : Message)
  | deadline

/-- The tabs of a browser and what they share. -/
structure Browser where
  now : Instant
  store : WatchedStore := {}
  channel : Feed Message := {}
  /-- The tabs, those that have waited longest first. -/
  tabs : Roster OpenTab := {}
  /-- The names of the tabs that have something to do, in the order in which they will run. -/
  queue : List String := []

namespace Browser

/-- A browser after some work, and what each tab did. -/
abbrev Result := Outcome (String × TabEffect) Browser

/-- Changes a tab. -/
def setTab (name : String) (change : OpenTab → OpenTab) (browser : Browser) : Browser :=
  { browser with tabs := browser.tabs.update name change }

/-- Puts a tab at the end of the queue unless it stands there. -/
def enqueue (name : String) (browser : Browser) : Browser :=
  if browser.queue.contains name then browser else { browser with queue := browser.queue ++ [name] }

/-- Opens a tab, which is going to run. -/
def openTab (name tabId : String) (config : Config) (hasChannel : Bool) (line : Line)
    (browser : Browser) : Except SetupError Browser := do
  let tab ← Tab.create tabId config hasChannel
  let (storageNumber, store) := browser.store.attach
  let (channelNumber, channel) :=
    if hasChannel then let (number, channel) := browser.channel.join; (some number, channel)
    else (none, browser.channel)
  let tabs := browser.tabs.enrol name { tab, line, storageNumber, channelNumber }
  pure (enqueue name { browser with store, channel, tabs })

/-- The next message for a tab. -/
def takeMessage (openTab : OpenTab) (browser : Browser) : Option Message × Browser :=
  match openTab.channelNumber with
  | none => (none, browser)
  | some number =>
    let (message, channel) := browser.channel.takeNext number
    (message, { browser with channel })

/-- Takes what a tab has to take up next, if there is anything. -/
def takeInput (name : String) (openTab : OpenTab) (browser : Browser) : Option TabInput × Browser :=
  if !openTab.isStarted then
    (some .start, setTab name (fun tab => { tab with isStarted := true }) browser)
  else if openTab.isClosing then (some .close, browser)
  else match openTab.signals with
    | (connection, signal) :: rest =>
      (some (.signal connection signal),
        setTab name (fun tab => { tab with signals := rest }) browser)
    | [] =>
      let (news, store) := browser.store.hearNext openTab.storageNumber
      match news, takeMessage openTab { browser with store } with
      | some key, _ => (some (.news key), { browser with store })
      | none, (some message, after) => (some (.message message), after)
      | none, (none, after) =>
        if Instant.isDue openTab.tab.nextDeadline browser.now then (some .deadline, after)
        else (none, after)

/-- Whether a tab has something to take up. -/
def isReady (name : String) (openTab : OpenTab) (browser : Browser) : Bool :=
  (takeInput name openTab browser).1.isSome

/-- What a tab does about an input. -/
def perform (openTab : OpenTab) (now : Instant) : TabInput → Access Tab.Result
  | .start => openTab.tab.init openTab.line now
  | .close => openTab.tab.shutdown
  | .signal connection signal => pure (openTab.tab.receiveSignal now connection signal)
  | .news key => openTab.tab.noticeChange openTab.line now key
  | .message message => pure ⟨openTab.tab, openTab.tab.receiveMessage now message⟩
  | .deadline => openTab.tab.poll openTab.line now

/-- Takes a tab out of the browser without a word. -/
def discard (name : String) (browser : Browser) : Browser :=
  match browser.tabs.get? name with
  | none => browser
  | some openTab =>
    let changes := (browser.store.changes.closeSender openTab.storageNumber).closeReceiver
      openTab.storageNumber
    let channel := match openTab.channelNumber with
      | some number => (browser.channel.closeSender number).closeReceiver number
      | none => browser.channel
    { browser with
      store := { browser.store with changes }, channel
      tabs := browser.tabs.remove name
      queue := browser.queue.filter fun other => !(other == name) }

/-- Posts what a tab has to say to all tabs with a channel. What cannot be posted is lost, and the
tab goes on. -/
def deliver (effects : List TabEffect) (browser : Browser) : Browser :=
  { browser with
    channel := (TabEffect.posts effects).foldl (fun channel message => (channel.post message).2)
      browser.channel }

/-- Puts every tab that has something to take up into the queue. -/
def wake (browser : Browser) : Browser :=
  let ready := browser.tabs.members.filter fun member => isReady member.1 member.2 browser
  ready.foldl (fun woken member => enqueue member.1 woken) browser

/-- How much was sent to tabs so far. -/
def sentSoFar (browser : Browser) : Nat := browser.store.changes.sent + browser.channel.sent

/-- A tab takes up one input. If it sent anything, others may have something to do. A tab that has
closed is taken out. -/
def takeUp (name : String) (openTab : OpenTab) (input : TabInput) (browser : Browser) : Result :=
  let storage := WatchedStore.storage openTab.storageNumber
  let (outcome, store) := Access.run storage browser.store (perform openTab browser.now input)
  let acted := deliver outcome.effects { browser with store }
  let after := match input with
    | .close => discard name acted
    | _ => setTab name (fun tab => { tab with tab := outcome.state }) acted
  let woken := if after.sentSoFar = browser.sentSoFar then after else wake after
  ⟨woken, outcome.effects.map fun effect => (name, effect)⟩

/-- The first tab of the queue waits from now on. -/
def park (name : String) (browser : Browser) : Browser :=
  let tabs := match browser.tabs.get? name with
    | some openTab => browser.tabs.enrol name openTab
    | none => browser.tabs
  { browser with tabs, queue := browser.queue.filter fun other => !(other == name) }

/-- The first tab of the queue takes up what comes next for it, or waits if there is nothing. -/
def turn (name : String) (browser : Browser) : Result :=
  match browser.tabs.get? name with
  | none => ⟨park name browser, []⟩
  | some openTab =>
    match takeInput name openTab browser with
    | (some input, after) => takeUp name openTab input after
    | (none, after) => ⟨park name after, []⟩

/-- Tabs run until none has anything to do, for at most `turns` turns. -/
def settle : (turns : Nat) → Browser → Result
  | 0, browser => ⟨browser, []⟩
  | turns + 1, browser =>
    match browser.queue with
    | [] => ⟨browser, []⟩
    | name :: _ => (turn name browser).andThen (settle turns)

/-- More turns than tabs ever take before all of them wait. -/
def turnLimit : Nat := 1000000

/-- Tabs run until none has anything to do. -/
def run (browser : Browser) : Result := settle turnLimit browser

/-- The tabs whose deadline has passed, those with earlier deadlines first. -/
def dueTabs (browser : Browser) : List String :=
  let due := browser.tabs.members.filterMap fun member =>
    match member.2.tab.nextDeadline with
    | some deadline => if deadline ≤ browser.now then some (deadline, member.1) else none
    | none => none
  (due.mergeSort fun first second => first.1 ≤ second.1).map (·.2)

/-- The clock moves to an instant, and the tabs whose deadline has passed run. -/
def arriveAt (now : Instant) (browser : Browser) : Result :=
  let arrived := { browser with now }
  run ((dueTabs arrived).foldl (fun woken name => enqueue name woken) arrived)

/-- Time passes in steps of at most a given length. -/
def passTime (steps : List Duration) (browser : Browser) : Result :=
  steps.foldl (fun result step => result.andThen fun browser =>
    arriveAt (browser.now.after step) browser)
    ⟨browser, []⟩

/-- The next deadline of any tab. -/
def nextDeadline (browser : Browser) : Option Instant :=
  browser.tabs.members.foldl
    (fun found member => Instant.earliest found member.2.tab.nextDeadline) none

/-- Time passes from deadline to deadline for as long as these lie before an instant, for at most
`stops` of them. -/
def passDeadlines (stop : Instant) : (stops : Nat) → Browser → Result
  | 0, browser => ⟨browser, []⟩
  | stops + 1, browser =>
    match browser.nextDeadline with
    | none => ⟨browser, []⟩
    | some deadline =>
      if deadline < stop then (arriveAt deadline browser).andThen (passDeadlines stop stops)
      else ⟨browser, []⟩

/-- A connection gives a signal to a tab. -/
def signal (name : String) (connection : Nat) (signal : StreamSignal) (browser : Browser) :
    Result :=
  run (enqueue name
    (setTab name
      (fun tab => { tab with signals := tab.signals ++ [(connection, signal)] }) browser))

/-- A tab is asked to close. -/
def close (name : String) (browser : Browser) : Result :=
  run (enqueue name (setTab name (fun tab => { tab with isClosing := true }) browser))

end Browser

end LiveTabs

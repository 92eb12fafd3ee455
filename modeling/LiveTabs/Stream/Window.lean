import LiveTabs.Issue

/-!
# Windows of events

Events that come in quick succession are collected in a window and reported together. For each issue
the last event counts and stands where the first one stood; the kinds of all events are remembered,
also of those that were replaced. Where the event of an issue stands is looked up by the id of the
issue. Closing or clearing a window leaves nothing for the next one.
-/

namespace LiveTabs

/-- The events of an open window. -/
structure Window where
  /-- The last event of each issue, in the order in which the issues were first heard of. -/
  events : List IssueEvent := []
  /-- The position among the events for the id of each issue. -/
  positions : List (String × Nat) := []
  /-- The kinds of all events. -/
  kinds : KindSet := {}

namespace Window

/-- The ids of the issues that the events are about, in the order of the events. -/
def ids (window : Window) : List String := window.events.map fun event => event.issue.id

/-- Takes an event into the window. It is written at the position of its issue, or else it comes
last and its position is noted. Nothing would be written at a position beyond the last event, so the
positions have to be those of the events. -/
def add (window : Window) (event : IssueEvent) : Window :=
  let seen := { window with kinds := window.kinds.insert event.kind }
  match seen.positions.lookup event.issueId with
  | some position => { seen with events := seen.events.set position event }
  | none =>
    { seen with
      positions := (event.issueId, seen.events.length) :: seen.positions
      events := seen.events ++ [event] }

/-- The number of issues in the window. -/
def size (window : Window) : Nat := window.events.length

/-- Whether the window holds no event. -/
def isEmpty (window : Window) : Bool := window.events.isEmpty

/-- Closes the window: its events as a batch, if there are any, and the window without them. A
window without events is left as it is. -/
def close (window : Window) (now : Instant) : Option Batch × Window :=
  if window.isEmpty then (none, window)
  else
    let unplaced := { window with positions := [] }
    let batch : Batch :=
      { issueIds := unplaced.ids
        events := unplaced.events
        kinds := unplaced.kinds
        timestamp := now }
    (some batch, { unplaced with events := [], kinds := {} })

/-- Drops the events of the window, their positions and their kinds. -/
def clear (window : Window) : Window :=
  let dropped := { window with events := [] }
  let unplaced := { dropped with positions := [] }
  { unplaced with kinds := {} }

end Window

/-- Whether an event of a kind went into the batch. -/
def Batch.saw (batch : Batch) (kind : EventKind) : Bool := batch.kinds.contains kind

end LiveTabs

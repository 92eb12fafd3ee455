import LiveTabs.Json.Value
import LiveTabs.Time

/-!
# Issue events

What the server reports: that an issue was created, updated, closed or deleted, with a summary of
the issue. A summary keeps fields that are not known here as they came.
-/

namespace LiveTabs

/-- What happened to an issue. -/
inductive EventKind where
  | created
  | updated
  | closed
  | deleted
deriving DecidableEq

namespace EventKind

/-- The name of the kind, on the stream and on the channel. -/
def name : EventKind → String
  | .created => "created"
  | .updated => "updated"
  | .closed => "closed"
  | .deleted => "deleted"

/-- All kinds, in the order in which they are listed. -/
def all : List EventKind := [.created, .updated, .closed, .deleted]

/-- The kind with a given name. -/
def ofName? (name : String) : Option EventKind := all.find? fun kind => kind.name == name

/-- Every kind is found under its name. -/
@[simp] theorem ofName?_name (kind : EventKind) : ofName? kind.name = some kind := by
  cases kind <;> rfl

end EventKind

/-- A summary of an issue. -/
structure Issue where
  id : String
  title : Option String := none
  status : Option String := none
  issueType : Option String := none
  priority : Option Int := none
  assignee : Option String := none
  labels : List String := []
  updatedAt : Option String := none
  /-- The fields that are not known here. -/
  extra : Json.Members := []

/-- An event about one issue. -/
structure IssueEvent where
  kind : EventKind
  issue : Issue

/-- The id of the issue that an event is about. -/
def IssueEvent.issueId (event : IssueEvent) : String := event.issue.id

/-- A set of kinds of events. -/
structure KindSet where
  created : Bool := false
  updated : Bool := false
  closed : Bool := false
  deleted : Bool := false
deriving DecidableEq

namespace KindSet

/-- Whether a kind belongs to the set. -/
def contains (set : KindSet) : EventKind → Bool
  | .created => set.created
  | .updated => set.updated
  | .closed => set.closed
  | .deleted => set.deleted

/-- Adds a kind to the set. -/
def insert (set : KindSet) : EventKind → KindSet
  | .created => { set with created := true }
  | .updated => { set with updated := true }
  | .closed => { set with closed := true }
  | .deleted => { set with deleted := true }

/-- The set of the kinds in a list. -/
def ofList (kinds : List EventKind) : KindSet := kinds.foldl insert {}

/-- The kinds in the set, each once and in the order of `EventKind.all`. -/
def toList (set : KindSet) : List EventKind := EventKind.all.filter set.contains

/-- A kind belongs to the set after an insertion if it did before or was inserted. -/
@[simp] theorem contains_insert (set : KindSet) (kind other : EventKind) :
    (set.insert kind).contains other = (decide (other = kind) || set.contains other) := by
  cases kind <;> cases other <;> simp [insert, contains]

end KindSet

/-- The events of one window of time, at most one for each issue. -/
structure Batch where
  /-- The ids of the issues, in the order in which they were first heard of. -/
  issueIds : List String
  /-- The last event of each issue, in the same order. -/
  events : List IssueEvent
  /-- The kinds of all events of the window. -/
  kinds : KindSet
  /-- When the window was closed. -/
  timestamp : Instant

end LiveTabs

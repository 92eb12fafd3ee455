import LiveTabs.Proofs.Stream.Gathering

/-!
# Windows in the course of time

Whatever is done with a window from the time when it is new, it holds the events that were added
since it was last closed or cleared (`pending`), and nothing of those before: no event, no position
and no kind. What it answers is told from these events alone (`Mirrors`), without the list in which
it keeps one event for each issue and without the map in which it looks the issues up.
-/

namespace LiveTabs

/-- What can be done with a window. -/
inductive WindowInput where
  | add (event : IssueEvent)
  | close (now : Instant)
  | clear

namespace Window

/-- The window after an input. -/
def take (window : Window) : WindowInput → Window
  | .add event => window.add event
  | .close now => (window.close now).2
  | .clear => window.clear

/-- The window after inputs, one after the other. -/
def run (inputs : List WindowInput) (window : Window) : Window := inputs.foldl take window

/-- The events that are pending after an input. -/
def pendingAfter (pending : List IssueEvent) : WindowInput → List IssueEvent
  | .add event => pending ++ [event]
  | .close _ | .clear => []

/-- The events that were added since a window was last closed or cleared. -/
def pending (inputs : List WindowInput) : List IssueEvent := inputs.foldl pendingAfter []

variable {events : List IssueEvent} {window : Window}

/-- A window that holds the pending events goes on doing so at every input: a further event is added
to both, and closing and clearing leave the empty window, as nothing is pending then. -/
theorem Holds.take (holds : Holds events window) (input : WindowInput) :
    Holds (pendingAfter events input) (window.take input) := by
  cases input with
  | add event => exact holds.add event
  | close now =>
    rw [Window.take, holds.close_eq]
    split <;> exact empty_holds
  | clear => exact empty_holds

/-- So it holds them after any inputs, by induction, and the events are those since the window was
last emptied. -/
theorem Holds.run (holds : Holds events window) (inputs : List WindowInput) :
    Holds (inputs.foldl pendingAfter events) (window.run inputs) := by
  induction inputs generalizing events window with
  | nil => exact holds
  | cons input rest inductionHypothesis => exact inductionHypothesis (holds.take input)

/-- A list of events has an event of a kind if and only if the set of their kinds has that kind,
whether or not the event was replaced later. -/
theorem contains_kinds (events : List IssueEvent) (kind : EventKind) :
    (KindSet.ofList (events.map IssueEvent.kind)).contains kind = true ↔
      ∃ event ∈ events, event.kind = kind := by
  induction events using List.reverseRecOn with
  | nil => cases kind <;> simp [KindSet.ofList, KindSet.contains]
  | append_singleton events event inductionHypothesis =>
    rw [List.map_append, List.map_singleton, KindSet.of_list_concat, KindSet.contains_insert,
      Bool.or_eq_true, decide_eq_true_iff, inductionHypothesis]
    simp [or_and_right, exists_or, or_comm, eq_comm]

end Window

open Window (firstSeen lastAbout pending)

/-- A batch of events at an instant. -/
structure Batch.Gathers (events : List IssueEvent) (now : Instant) (batch : Batch) : Prop where
  /-- The issues are those that the events are about, in the order in which they were first heard
  of. -/
  issueIds : batch.issueIds = firstSeen events
  distinct : batch.issueIds.Nodup
  /-- At the position of each issue stands the last event about it. -/
  last : batch.events.map some = batch.issueIds.map (lastAbout events)
  /-- The kinds are those of all events, also of those that were replaced. -/
  kinds : ∀ kind, batch.saw kind = true ↔ ∃ event ∈ events, event.kind = kind
  timestamp : batch.timestamp = now

/-- What a window answers is told by the events that are pending. -/
structure Window.Mirrors (events : List IssueEvent) (window : Window) : Prop where
  /-- The map of positions is exactly the inverse of the list of ids. -/
  inStep : window.InStep
  /-- An event is only ever written at a position where one stands. -/
  inside : ∀ id position, window.positions.lookup id = some position →
    position < window.events.length
  size : window.size = (firstSeen events).length
  isEmpty : window.isEmpty = true ↔ events = []
  /-- An event takes the place of the one about the same issue, and a new issue comes last. -/
  add : ∀ event, (window.add event).events =
    match (firstSeen events).idxOf? event.issue.id with
    | some position => window.events.set position event
    | none => window.events ++ [event]
  /-- There is no batch exactly if nothing is pending. -/
  unanswered : ∀ now, (window.close now).1 = none ↔ events = []
  batch : ∀ now batch, (window.close now).1 = some batch → batch.Gathers events now
  /-- Nothing is left for the next window. -/
  closed : ∀ now, (window.close now).2 = {}
  cleared : window.clear = {}

namespace Window

/-- The batch of events gathers them: it keeps the last event about each issue, in the order in
which the issues were first seen. -/
theorem batch_gathers (events : List IssueEvent) (now : Instant) :
    (batchOf events now).Gathers events now where
  issueIds := rfl
  distinct := nodup_firstSeen events
  last := latest_eq events
  kinds := contains_kinds events
  timestamp := rfl

/-- An event is written where its issue was first seen, because the map finds what a search of the
ids would find. -/
theorem Holds.events_add {events : List IssueEvent} {window : Window} (holds : Holds events window)
    (event : IssueEvent) :
    (window.add event).events =
      match (firstSeen events).idxOf? event.issue.id with
      | some position => window.events.set position event
      | none => window.events ++ [event] := by
  rw [← holds.ids_eq, ← holds.inStep.lookup_eq]
  cases known : window.positions.lookup event.issue.id with
  | some position => rw [add_of_known known]
  | none => rw [add_of_unknown known]

/-- Whatever was done with a window, it answers as the events that were added since it was last
closed or cleared tell. So each time that it is closed there is a batch if there are such events: of
the issues that they are about in the order of first occurrence, with the last event about each of
them and the kinds of all of them. Nothing of a window is left for the next one, and the positions
are always those of the events.

Proof: a window holds the pending events, since each input keeps that up. -/
theorem answers_for_pending (inputs : List WindowInput) :
    Mirrors (pending inputs) (run inputs {}) := by
  have holds : Holds (pending inputs) (run inputs {}) := empty_holds.run inputs
  refine ⟨holds.inStep, fun _ _ => holds.inStep.inside, holds.size_eq, holds.is_empty_iff,
    holds.events_add, ?_, ?_, ?_, rfl⟩
  · intro now
    rw [holds.close_eq]
    split <;> simp [*]
  · intro now batch closed
    rw [holds.close_eq] at closed
    split at closed
    · cases closed
    · cases closed
      exact batch_gathers (pending inputs) now
  · intro now
    rw [holds.close_eq]
    split <;> rfl

/-- An event of a kind about an issue with a status. -/
def eventOn (kind : EventKind) (id status : String) : IssueEvent :=
  ⟨kind, { id, status := some status }⟩

/-- Two issues, the first of which is closed after the second was heard of. -/
def twoIssues : List WindowInput :=
  [.add (eventOn .created "bd-1" "open"), .add (eventOn .updated "bd-2" "open"),
    .add (eventOn .closed "bd-1" "closed")]

/-- The window of two issues is closed, one of them is heard of again and dropped, and then both
are, the other way round. -/
def threeWindows : List WindowInput :=
  twoIssues ++ [.close .epoch, .add (eventOn .deleted "bd-1" "closed"), .clear,
    .add (eventOn .updated "bd-2" "blocked"), .add (eventOn .updated "bd-1" "open")]

/-- In the first window the second event about an issue takes the place of the first one, and both
kinds are remembered. In the last window the issues stand in the order in which they came there,
although they stood the other way round in the first one, and of what was dropped in between there
is not even the kind. -/
theorem batches_of_three_windows :
    (∃ batch, ((run twoIssues {}).close .epoch).1 = some batch ∧
      batch.Gathers (pending twoIssues) .epoch ∧ batch.issueIds = ["bd-1", "bd-2"] ∧
      batch.events.map (fun event => event.issue.status) = [some "closed", some "open"] ∧
      batch.kinds.toList = [.created, .updated, .closed]) ∧
    (∃ batch, ((run threeWindows {}).close .epoch).1 = some batch ∧
      batch.Gathers (pending threeWindows) .epoch ∧ batch.issueIds = ["bd-2", "bd-1"] ∧
      batch.events.map (fun event => event.issue.status) = [some "blocked", some "open"] ∧
      batch.kinds.toList = [.updated]) ∧
    (run threeWindows {}).positions.lookup "bd-1" = some 1 := by
  refine ⟨⟨_, rfl, (answers_for_pending twoIssues).batch _ _ rfl, ?_⟩,
    ⟨_, rfl, (answers_for_pending threeWindows).batch _ _ rfl, ?_⟩, ?_⟩
  · decide +kernel
  · decide +kernel
  · decide +kernel

end Window

end LiveTabs

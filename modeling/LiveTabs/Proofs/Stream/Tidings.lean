import LiveTabs.Proofs.Stream.Gathering
import LiveTabs.Proofs.Stream.Moves

/-!
# Which operations are about events

Most of what a subscription does is about its connection and leaves events alone: it neither reports
any nor touches the window and its deadline (`LeavesEvents`). That goes for dialling, failing,
warning and signs of life, also where they are a part of an operation that is about events. What is
left is a signal that brings an event (`receive_event`), a poll at the deadline of the window
(`poll_batch`), and a stop.
-/

namespace LiveTabs

/-- Whether a report is about events. -/
def StreamReport.isTiding : StreamReport → Bool
  | .event _ | .deleted _ | .batch _ => true
  | .stateChanged _ | .disconnectWarning _ => false

namespace StreamEffect

/-- The reports about events among effects. -/
def tidings (effects : List StreamEffect) : List StreamReport :=
  (reports effects).filter StreamReport.isTiding

/-- The tidings of effects that follow each other are those of the first ones and then those of the
others. -/
@[simp] theorem tidings_append (first second : List StreamEffect) :
    tidings (first ++ second) = tidings first ++ tidings second := by
  rw [tidings, reports, List.filterMap_append, List.filter_append]
  rfl

/-- The events that effects report. -/
def events (effects : List StreamEffect) : List IssueEvent :=
  (tidings effects).filterMap fun report => match report with
    | .event event => some event
    | _ => none

/-- The batches that effects report. -/
def batches (effects : List StreamEffect) : List Batch :=
  (tidings effects).filterMap fun report => match report with
    | .batch batch => some batch
    | _ => none

end StreamEffect

namespace Subscription

open StreamEffect (tidings)

variable {subscription : Subscription} {outcome : Result}

/-- The event that an input brings: the present connection gives a message, which has the name of a
kind of event and the payload of an event. -/
def brought? (subscription : Subscription) : StreamInput → Option IssueEvent
  | .signal _ connection (.message name data) =>
    if subscription.connection = some connection then
      (EventKind.ofName? name).bind fun kind => (IssueEvent.ofPayload kind data).toOption
    else none
  | .signal _ _ .opened | .signal _ _ (.failed _) | .start _ _ | .stop | .poll _ _ => none

/-- An operation that has nothing to do with events. -/
structure LeavesEvents (subscription : Subscription) (outcome : Result) : Prop where
  window : outcome.state.window = subscription.window
  debounceAt : outcome.state.debounceAt = subscription.debounceAt
  config : outcome.state.config = subscription.config
  silent : tidings outcome.effects = []

/-- To do nothing has nothing to do with events, which is the branch in which an operation does not
apply. -/
theorem leaves_events_nothing (subscription : Subscription) :
    subscription.LeavesEvents ⟨subscription, []⟩ := ⟨rfl, rfl, rfl, rfl⟩

/-- Two operations that have nothing to do with events, one after the other, have nothing to do with
them either. -/
theorem LeavesEvents.andThen {next : Subscription → Result}
    (first : subscription.LeavesEvents outcome)
    (second : outcome.state.LeavesEvents (next outcome.state)) :
    subscription.LeavesEvents (outcome.andThen next) where
  window := second.window.trans first.window
  debounceAt := second.debounceAt.trans first.debounceAt
  config := second.config.trans first.config
  silent := by rw [Outcome.effects_andThen, StreamEffect.tidings_append, first.silent,
    second.silent, List.append_nil]

/-- Going over to a state has nothing to do with events: what is reported is the state. -/
theorem move_to_leaves (state : StreamState) (subscription : Subscription) :
    subscription.LeavesEvents (moveTo state subscription) := by
  unfold moveTo
  split
  · exact leaves_events_nothing _
  · exact ⟨rfl, rfl, rfl, rfl⟩

/-- Hanging up has nothing to do with events: it is a call and no report. -/
theorem hang_up_leaves (subscription : Subscription) :
    subscription.LeavesEvents subscription.hangUp := by
  unfold hangUp
  split
  · exact leaves_events_nothing _
  · exact ⟨rfl, rfl, rfl, rfl⟩

/-- A failure has nothing to do with events: the window is closed as if the connection was there. -/
theorem fail_leaves (now : Instant) (subscription : Subscription) :
    subscription.LeavesEvents (subscription.fail now) := by
  have notes : ∀ subscription : Subscription,
      subscription.LeavesEvents (quietly (noteLoss now) subscription) := by
    intro subscription
    rw [quietly, note_loss_eq]
    exact ⟨rfl, rfl, rfl, rfl⟩
  have schedules : ∀ subscription : Subscription,
      subscription.LeavesEvents (quietly (scheduleRetry now) subscription) :=
    fun _ => ⟨rfl, rfl, rfl, rfl⟩
  have loses := ((((hang_up_leaves subscription).andThen (move_to_leaves .failed _)).andThen
    (notes _)).andThen (schedules _)).andThen (move_to_leaves .waiting _)
  unfold fail
  cases subscription.state with
  | connecting | connected => exact loses
  | idle | waiting | failed | stopped | unsupported => exact leaves_events_nothing _

/-- Dialling has nothing to do with events, whether or not the attempt is refused; the window stays
open in between. -/
theorem dial_leaves (line : Line) (now : Instant) (subscription : Subscription) :
    subscription.LeavesEvents (subscription.dial line now) := by
  have numbers : ∀ subscription : Subscription,
      subscription.LeavesEvents (quietly numberNext subscription) :=
    fun _ => ⟨rfl, rfl, rfl, rfl⟩
  unfold dial
  refine (((hang_up_leaves _).andThen (numbers _)).andThen (move_to_leaves _ _)).andThen ?_
  dsimp only
  split
  · exact ⟨rfl, rfl, rfl, rfl⟩
  · exact LeavesEvents.andThen ⟨rfl, rfl, rfl, rfl⟩ (fail_leaves now _)

/-- Starting has nothing to do with events: there are none left from before. -/
theorem start_leaves (line : Line) (now : Instant) (subscription : Subscription) :
    subscription.LeavesEvents (subscription.start line now) := by
  have launches : ∀ idle : Subscription, idle.LeavesEvents
      (if line.supported then dial line now { idle with backoff := idle.backoff.reset }
        else moveTo .unsupported idle) := by
    intro idle
    split
    · exact { dial_leaves line now _ with }
    · exact move_to_leaves _ _
  unfold start
  cases subscription.state with
  | idle => exact launches _
  | stopped => exact (move_to_leaves _ _).andThen (launches _)
  | connecting | connected | waiting | failed | unsupported => exact leaves_events_nothing _

/-- Looking whether to dial again has nothing to do with events, so a failure between two events
does not part them. -/
theorem poll_reconnect_leaves (line : Line) (now : Instant) (subscription : Subscription) :
    subscription.LeavesEvents (subscription.pollReconnect line now) := by
  unfold pollReconnect
  split
  · dsimp only
    split
    · exact { dial_leaves line now _ with }
    · exact ⟨rfl, rfl, rfl, rfl⟩
  · exact leaves_events_nothing _

/-- Looking whether to warn has nothing to do with events, and a warning is no tiding of one. -/
theorem poll_warning_leaves (now : Instant) (subscription : Subscription) :
    subscription.LeavesEvents (subscription.pollWarning now) := by
  unfold pollWarning
  split
  · cases subscription.lostAt <;> exact ⟨rfl, rfl, rfl, rfl⟩
  · exact leaves_events_nothing _

/-- A sign of life has nothing to do with events; a message that brings one is taken in after it. -/
theorem show_alive_leaves (now : Instant) (subscription : Subscription) :
    subscription.LeavesEvents (subscription.showAlive now) := by
  unfold showAlive
  split <;> exact ⟨rfl, rfl, rfl, rfl⟩

/-- A sign that the connection is open has nothing to do with events, be it the first one or a
further one. -/
theorem mark_open_leaves (now : Instant) (subscription : Subscription) :
    subscription.LeavesEvents (subscription.markOpen now) := by
  rw [mark_open_eq]
  split <;> exact ⟨rfl, rfl, rfl, rfl⟩

/-- A signal that brings no event has nothing to do with events. Such are the signals of other
connections, and messages that cannot be read. -/
theorem receive_leaves (now : Instant) (connection : Nat) (signal : StreamSignal)
    (empty : subscription.brought? (.signal now connection signal) = none) :
    subscription.LeavesEvents (subscription.receive now connection signal) := by
  unfold receive
  by_cases present : subscription.connection = some connection
  · rw [if_pos present]
    cases signal with
    | opened => exact mark_open_leaves now _
    | failed reason => exact fail_leaves now _
    | message name data =>
      rw [brought?, if_pos present] at empty
      dsimp only
      rw [take_message_eq]
      cases named : EventKind.ofName? name with
      | none => exact show_alive_leaves now _
      | some kind =>
        refine (show_alive_leaves now _).andThen ?_
        rw [named, Option.bind_some] at empty
        rw [takeIn]
        cases payload : IssueEvent.ofPayload kind data with
        | error fault => exact leaves_events_nothing _
        | ok event =>
          rw [payload] at empty
          cases empty
  · rw [if_neg present]
    exact leaves_events_nothing _

/-- What a signal comes to that brings an event: it is a sign of life, and the event is taken in. -/
theorem receive_event {now : Instant} {connection : Nat} {signal : StreamSignal}
    {event : IssueEvent}
    (brings : subscription.brought? (.signal now connection signal) = some event) :
    subscription.receive now connection signal =
      (subscription.showAlive now).andThen fun alive =>
        ⟨{ alive with
          window := alive.window.add event
          debounceAt := some (now.after alive.config.debounce) }, eventReports event⟩ := by
  cases signal with
  | opened | failed reason => cases brings
  | message name data =>
    rw [brought?] at brings
    by_cases present : subscription.connection = some connection
    · rw [if_pos present, Option.bind_eq_some_iff] at brings
      obtain ⟨kind, named, payload⟩ := brings
      have parsed : IssueEvent.ofPayload kind data = .ok event := by
        cases outcome : IssueEvent.ofPayload kind data with
        | error fault =>
          rw [outcome] at payload
          cases payload
        | ok other =>
          rw [outcome] at payload
          cases payload
          rfl
      rw [receive, if_pos present, take_message_eq, named]
      refine congrArg (Outcome.andThen _) (funext fun alive => ?_)
      rw [takeIn, parsed]
    · rw [if_neg present] at brings
      cases brings

/-- The reports of an event, without those that come before them: the event itself, and its deletion
once more if it is one. -/
theorem tidings_of_event {opening : List StreamEffect} (silent : tidings opening = [])
    (event : IssueEvent) :
    tidings (opening ++ eventReports event) =
      if event.kind = .deleted then [.event event, .deleted event] else [.event event] := by
  rw [StreamEffect.tidings_append, silent, List.nil_append]
  cases kind : event.kind <;> simp [eventReports, kind, tidings, StreamEffect.reports,
    StreamReport.isTiding]

/-- A poll before the deadline of the window has nothing to do with events, whatever else is due in
it. -/
theorem poll_leaves (line : Line) {now : Instant}
    (early : Instant.isDue subscription.debounceAt now = false) :
    subscription.LeavesEvents (subscription.poll line now) := by
  have dials := poll_reconnect_leaves line now subscription
  have keeps : (subscription.pollReconnect line now).state.pollWindow now =
      ⟨(subscription.pollReconnect line now).state, []⟩ := by
    rw [pollWindow, dials.debounceAt, early, if_neg Bool.false_ne_true]
  have waits : (subscription.pollReconnect line now).state.LeavesEvents
      ((subscription.pollReconnect line now).state.pollWindow now) := by
    rw [keeps]
    exact leaves_events_nothing _
  exact (dials.andThen waits).andThen (poll_warning_leaves now _)

/-- A poll at the deadline of the window reports the events in it as a batch, and nothing else about
events. What is due besides comes before or after it. -/
theorem poll_batch (line : Line) {now : Instant} {pending : List IssueEvent}
    (due : Instant.isDue subscription.debounceAt now = true)
    (window : subscription.window.Holds pending) (nonempty : pending ≠ []) :
    tidings (subscription.poll line now).effects = [.batch (Window.batchOf pending now)] ∧
      (subscription.poll line now).state.window = {} ∧
      (subscription.poll line now).state.debounceAt = none ∧
      (subscription.poll line now).state.config = subscription.config := by
  have dials := poll_reconnect_leaves line now subscription
  have closes : (subscription.pollReconnect line now).state.pollWindow now =
      ⟨{ (subscription.pollReconnect line now).state with debounceAt := none, window := {} },
        [.report (.batch (Window.batchOf pending now))]⟩ := by
    rw [pollWindow, dials.debounceAt, if_pos due, dials.window, window.close_eq,
      if_neg nonempty]
    rfl
  have warns := poll_warning_leaves now
    ((subscription.pollReconnect line now).state.pollWindow now).state
  refine ⟨?_, ?_, ?_, ?_⟩
  · rw [poll, Outcome.effects_andThen, Outcome.effects_andThen, StreamEffect.tidings_append,
      StreamEffect.tidings_append, dials.silent, Outcome.state_andThen, warns.silent, closes]
    rfl
  · rw [poll, Outcome.state_andThen, Outcome.state_andThen, warns.window, closes]
  · rw [poll, Outcome.state_andThen, Outcome.state_andThen, warns.debounceAt, closes]
  · rw [poll, Outcome.state_andThen, Outcome.state_andThen, warns.config, closes]
    exact dials.config

end Subscription

end LiveTabs

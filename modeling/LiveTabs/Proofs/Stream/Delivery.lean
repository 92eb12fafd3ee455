import LiveTabs.Proofs.Stream.Tidings

/-!
# What becomes of the events

Every event that a connection brings is reported by itself, and once more with the others that came
close to it. What is outstanding between two operations can be told from the history of the
subscription alone: the events that it reported since it last reported a batch or was asked to stop.
The window holds these events and no others, and its deadline is set by the last of them
(`InBooks`). All operations but three leave the window alone; one takes an event in, one reports the
batch, and one drops everything.
-/

namespace LiveTabs

/-- One operation on a subscription: what was done with it, and what it did. -/
structure StreamStep where
  input : StreamInput
  effects : List StreamEffect

/-- An event that was reported, and when. -/
structure Heard where
  event : IssueEvent
  time : Instant

namespace StreamStep

open StreamEffect (events batches)

/-- The events that are reported on a signal. -/
def heard (step : StreamStep) : List Heard :=
  match step.input with
  | .signal now _ _ => (events step.effects).map fun event => ⟨event, now⟩
  | .start _ _ | .stop | .poll _ _ => []

/-- Whether the events so far are done with: reported together, or dropped by a stop. -/
def closes (step : StreamStep) : Bool :=
  match step.input with
  | .stop => true
  | .start _ _ | .poll _ _ | .signal _ _ _ => !(batches step.effects).isEmpty

/-- The events that are outstanding after one more operation. -/
def outstandingAfter (before : List Heard) (step : StreamStep) : List Heard :=
  (if step.closes then [] else before) ++ step.heard

/-- The events that were reported since the last batch or stop. -/
def outstanding (history : List StreamStep) : List Heard := history.foldl outstandingAfter []

/-- The last operation acts on what was outstanding before it. The induction over a run takes its
step by this. -/
theorem outstanding_concat (history : List StreamStep) (step : StreamStep) :
    outstanding (history ++ [step]) = outstandingAfter (outstanding history) step := by
  rw [outstanding, List.foldl_append]
  rfl

/-- An operation that leaves the outstanding events waiting for a deadline: it is no stop, brings no
further event, and is no poll at the deadline or later. -/
structure Waits (deadline : Instant) (step : StreamStep) : Prop where
  running : step.input ≠ .stop
  noEvent : events step.effects = []
  early : ∀ line now, step.input = .poll line now → now < deadline

end StreamStep

namespace Subscription

open StreamEffect (tidings events batches)
open StreamStep (outstanding outstanding_concat)

variable {subscription before after : Subscription} {outcome : Result}

/-- The operations of a run. -/
def steps : List StreamInput → Subscription → List StreamStep
  | [], _ => []
  | input :: rest, subscription =>
    ⟨input, (subscription.take input).effects⟩ :: steps rest (subscription.take input).state

/-- The batch that is due at an input: at a poll, when the time that is allowed after the last of
the outstanding events is over, of all these events. -/
def dueBatch? (debounce : Duration) (pending : List Heard) : StreamInput → Option Batch
  | .poll _ now => pending.getLast?.bind fun last =>
    if last.time.after debounce ≤ now then some (Window.batchOf (pending.map Heard.event) now)
    else none
  | .start _ _ | .stop | .signal _ _ _ => none

/-- What a subscription owes its user about events at an input, with events outstanding: the event
that the input brings, a deletion twice, or the batch that is due. -/
def owed (debounce : Duration) (pending : List Heard) (input : StreamInput)
    (subscription : Subscription) : List StreamReport :=
  match subscription.brought? input with
  | some event =>
    if event.kind = .deleted then [.event event, .deleted event] else [.event event]
  | none => ((dueBatch? debounce pending input).map StreamReport.batch).toList

/-- The books of a subscription agree with its history: the window holds the outstanding events, and
is to be closed when the time that is allowed after the last of them is over. -/
structure InBooks (config : StreamConfig) (history : List StreamStep)
    (subscription : Subscription) : Prop where
  window : subscription.window.Holds ((outstanding history).map Heard.event)
  debounceAt : subscription.debounceAt =
    (outstanding history).getLast?.map fun last => last.time.after config.debounce
  config : subscription.config = config

variable {config : StreamConfig} {history : List StreamStep}

/-- A subscription that was just created has no events, neither in its window nor in the books. -/
theorem create_in_books (config : StreamConfig) : InBooks config [] (create config) :=
  ⟨Window.empty_holds, rfl, rfl⟩

/-- An operation without tidings other than a stop leaves the same events outstanding. -/
theorem outstanding_of_silent (history : List StreamStep) {step : StreamStep}
    (running : step.input ≠ .stop) (silent : tidings step.effects = []) :
    outstanding (history ++ [step]) = outstanding history := by
  have none : step.heard = [] ∧ step.closes = false := by
    obtain ⟨input, effects⟩ := step
    cases input with
    | stop => exact absurd rfl running
    | start | poll | signal => simp [StreamStep.heard, StreamStep.closes, events, batches, silent]
  rw [outstanding_concat, StreamStep.outstandingAfter, none.1, none.2, List.append_nil]
  rfl

/-- An operation that has nothing to do with events leaves the books in order: it delivers nothing
and the window is the same. -/
theorem InBooks.of_leaves {input : StreamInput} (books : InBooks config history subscription)
    (leaves : subscription.LeavesEvents outcome) (running : input ≠ .stop) :
    InBooks config (history ++ [⟨input, outcome.effects⟩]) outcome.state := by
  have same : outstanding (history ++ [⟨input, outcome.effects⟩]) = outstanding history :=
    outstanding_of_silent history running leaves.silent
  constructor
  · rw [same, leaves.window]
    exact books.window
  · rw [same, leaves.debounceAt, books.debounceAt]
  · rw [leaves.config, books.config]

/-- A stop drops what is outstanding, and delivers nothing of it. The window is empty afterwards. -/
theorem InBooks.stop (books : InBooks config history subscription)
    (coherent : subscription.Coherent) :
    tidings subscription.stop.effects = [] ∧
      InBooks config (history ++ [⟨.stop, subscription.stop.effects⟩]) subscription.stop.state := by
  have nothing : outstanding (history ++ [⟨.stop, subscription.stop.effects⟩]) = [] := by
    rw [outstanding_concat]
    rfl
  by_cases unsupported : subscription.state = .unsupported
  · have resting := coherent.resting (by rw [unsupported]; rfl)
    have ignored : subscription.stop = ⟨subscription, []⟩ := if_pos unsupported
    refine ⟨by rw [ignored]; rfl, ?_, ?_, ?_⟩
    · rw [nothing, ignored, resting.window]
      exact Window.empty_holds
    · rw [nothing, ignored, resting.debounceAt]
      rfl
    · rw [ignored, books.config]
  · have stops := stop_eq unsupported
    refine ⟨?_, ?_, ?_, ?_⟩
    · rw [stops]
      cases subscription.connection <;> dsimp only <;> split <;> rfl
    · rw [nothing, stops]
      exact Window.empty_holds
    · rw [nothing, stops]
      rfl
    · rw [stops]
      exact books.config

/-- A poll reports the outstanding events as a batch if that is due, and leaves the books in
order. -/
theorem InBooks.poll (books : InBooks config history subscription) (line : Line) (now : Instant) :
    tidings (subscription.poll line now).effects =
        ((dueBatch? config.debounce (outstanding history) (.poll line now)).map
          StreamReport.batch).toList ∧
      InBooks config (history ++ [⟨.poll line now, (subscription.poll line now).effects⟩])
        (subscription.poll line now).state := by
  cases found : (outstanding history).getLast? with
  | none =>
    have unset : subscription.debounceAt = none := by rw [books.debounceAt, found]; rfl
    have leaves : subscription.LeavesEvents (subscription.poll line now) :=
      poll_leaves line (by rw [unset]; rfl)
    refine ⟨?_, books.of_leaves leaves nofun⟩
    rw [leaves.silent, dueBatch?, found]
    rfl
  | some last =>
    have deadline : subscription.debounceAt = some (last.time.after config.debounce) := by
      rw [books.debounceAt, found]
      rfl
    by_cases due : last.time.after config.debounce ≤ now
    · have nonempty : (outstanding history).map Heard.event ≠ [] := by
        intro empty
        rw [List.map_eq_nil_iff.mp empty] at found
        cases found
      obtain ⟨reported, window, debounceAt, same⟩ := poll_batch line
        (by rw [deadline]; exact decide_eq_true due) books.window nonempty
      have nothing : outstanding
          (history ++ [⟨.poll line now, (subscription.poll line now).effects⟩]) = [] := by
        rw [outstanding_concat]
        simp [StreamStep.outstandingAfter, StreamStep.closes, StreamStep.heard, batches, reported]
      refine ⟨?_, ?_, ?_, ?_⟩
      · rw [reported, dueBatch?, found, Option.bind_some, if_pos due]
        rfl
      · rw [nothing, window]
        exact Window.empty_holds
      · rw [nothing, debounceAt]
        rfl
      · rw [same, books.config]
    · have leaves : subscription.LeavesEvents (subscription.poll line now) :=
        poll_leaves line (by rw [deadline]; exact decide_eq_false due)
      refine ⟨?_, books.of_leaves leaves nofun⟩
      rw [leaves.silent, dueBatch?, found, Option.bind_some, if_neg due]
      rfl

/-- An event is entered in the books: it is told at once and waits in the window for its batch. -/
theorem InBooks.enter (books : InBooks config history subscription) {now : Instant}
    {connection : Nat} {signal : StreamSignal} {event : IssueEvent}
    (brings : subscription.brought? (.signal now connection signal) = some event) :
    InBooks config
      (history ++ [⟨.signal now connection signal,
        (subscription.receive now connection signal).effects⟩])
      (subscription.receive now connection signal).state := by
  have alive := show_alive_leaves now subscription
  have received := receive_event brings
  have told := tidings_of_event alive.silent event
  have added : outstanding (history ++ [⟨.signal now connection signal,
      (subscription.receive now connection signal).effects⟩]) =
      outstanding history ++ [⟨event, now⟩] := by
    rw [outstanding_concat, received]
    simp only [StreamStep.outstandingAfter, StreamStep.closes, StreamStep.heard, batches, events,
      Outcome.effects_andThen, told]
    split <;> rfl
  constructor
  · have holds := books.window.add event
    rw [← alive.window] at holds
    rw [added, received, List.map_append, List.map_singleton]
    exact holds
  · rw [added, received, List.getLast?_concat, Option.map_some, ← books.config, ← alive.config]
    rfl
  · rw [received, ← books.config]
    exact alive.config

/-- At every input a subscription reports what it owes about events, and nothing else, and its books
stay in order. -/
theorem InBooks.take (books : InBooks config history subscription) (input : StreamInput)
    (coherent : subscription.Coherent) :
    tidings (subscription.take input).effects =
        subscription.owed config.debounce (outstanding history) input ∧
      InBooks config (history ++ [⟨input, (subscription.take input).effects⟩])
        (subscription.take input).state := by
  cases input with
  | start line now =>
    have leaves := start_leaves line now subscription
    exact ⟨leaves.silent, books.of_leaves leaves nofun⟩
  | stop => exact books.stop coherent
  | poll line now => exact books.poll line now
  | signal now connection signal =>
    cases brings : subscription.brought? (.signal now connection signal) with
    | none =>
      have leaves := receive_leaves now connection signal brings
      refine ⟨?_, books.of_leaves leaves nofun⟩
      rw [owed, brings]
      exact leaves.silent
    | some event =>
      refine ⟨?_, books.enter brings⟩
      rw [owed, brings, Subscription.take, receive_event brings]
      exact tidings_of_event (show_alive_leaves now subscription).silent event

/-- The books of a subscription are in order after every run, by induction on the inputs. -/
theorem run_in_books (inputs : List StreamInput) (coherent : subscription.Coherent)
    (books : InBooks config history subscription) :
    InBooks config (history ++ steps inputs subscription) (subscription.run inputs).state := by
  induction inputs generalizing history subscription with
  | nil => rwa [steps, List.append_nil]
  | cons input rest inductionHypothesis =>
    have after := inductionHypothesis (coherent.moves (take_moves input coherent))
      (books.take input coherent).2
    rwa [List.append_assoc] at after

/-- Before the batch of the outstanding events is due, an operation without events is silent. -/
theorem InBooks.silent_of_waits (books : InBooks config history subscription)
    (coherent : subscription.Coherent) {last : Heard}
    (found : (outstanding history).getLast? = some last) {input : StreamInput}
    (waits : StreamStep.Waits (last.time.after config.debounce)
      ⟨input, (subscription.take input).effects⟩) :
    tidings (subscription.take input).effects = [] := by
  have told := (books.take input coherent).1
  have noEvent := waits.noEvent
  rw [events, told, owed] at noEvent
  rw [told, owed]
  cases brings : subscription.brought? input with
  | some event =>
    rw [brings] at noEvent
    cases kind : event.kind <;> simp [kind] at noEvent
  | none =>
    cases input with
    | start | stop | signal => rfl
    | poll line now =>
      have early : ¬last.time.after config.debounce ≤ now := by
        have before := waits.early line now rfl
        exact Int.not_le.mpr before
      rw [dueBatch?, found, Option.bind_some, if_neg early]
      rfl

/-- While the outstanding events wait for their deadline, they stay outstanding and no batch is
reported. -/
theorem InBooks.still_waiting (books : InBooks config history subscription)
    (coherent : subscription.Coherent) {last : Heard}
    (found : (outstanding history).getLast? = some last) {inputs : List StreamInput}
    (waits : ∀ step ∈ steps inputs subscription,
      StreamStep.Waits (last.time.after config.debounce) step) :
    outstanding (history ++ steps inputs subscription) = outstanding history ∧
      tidings (subscription.run inputs).effects = [] := by
  induction inputs generalizing history subscription with
  | nil => exact ⟨by rw [steps, List.append_nil], rfl⟩
  | cons input rest inductionHypothesis =>
    obtain ⟨first, later⟩ := List.forall_mem_cons.mp waits
    have silent := books.silent_of_waits coherent found first
    have same := outstanding_of_silent history first.running silent
    have still := inductionHypothesis (books.take input coherent).2
      (coherent.moves (take_moves input coherent)) (same ▸ found) later
    rw [List.append_assoc] at still
    constructor
    · exact still.1.trans same
    · rw [run, Outcome.effects_andThen, StreamEffect.tidings_append, silent, still.2]
      rfl

/-- What a subscription reports about events after a history, and what it still holds. -/
structure Delivers (config : StreamConfig) (history : List StreamStep)
    (subscription : Subscription) : Prop where
  /-- At every input it reports what it owes, and nothing else. -/
  owed : ∀ input, tidings (subscription.take input).effects =
    subscription.owed config.debounce (outstanding history) input
  /-- The reports of an event come last at its input, so the deletion follows the event at once. -/
  together : ∀ input event, subscription.brought? input = some event →
    ∃ opening, tidings opening = [] ∧
      (subscription.take input).effects = opening ++ eventReports event
  /-- The window holds the events that were reported since the last batch or stop, and no others. -/
  pending : subscription.window.Holds ((outstanding history).map Heard.event)
  /-- Whatever else comes in between, the first poll at the deadline reports their batch. -/
  punctual : ∀ last waiting line now, (outstanding history).getLast? = some last →
    (∀ step ∈ steps waiting subscription,
      StreamStep.Waits (last.time.after config.debounce) step) →
    last.time.after config.debounce ≤ now →
    tidings (subscription.run (waiting ++ [.poll line now])).effects =
      [.batch (Window.batchOf ((outstanding history).map Heard.event) now)]

/-- A subscription whose books are in order delivers every event, at once and in the batch of its
window. -/
theorem InBooks.delivers (books : InBooks config history subscription)
    (coherent : subscription.Coherent) : Delivers config history subscription where
  owed input := (books.take input coherent).1
  together input event brings := by
    cases input with
    | start | stop | poll => cases brings
    | signal now connection signal =>
      exact ⟨_, (show_alive_leaves now subscription).silent, by
        rw [Subscription.take, receive_event brings]
        rfl⟩
  pending := books.window
  punctual last waiting line now found waits due := by
    obtain ⟨still, silent⟩ := books.still_waiting coherent found waits
    have between := run_in_books waiting coherent books
    have reported := (between.poll line now).1
    rw [still, dueBatch?, found, Option.bind_some, if_pos due] at reported
    rw [run_concat, Outcome.effects_andThen, StreamEffect.tidings_append, silent]
    exact reported

/-- No event is lost or doubled. At every input of every run, a subscription reports exactly the
event that the input brings, if it brings one, and a deletion once more right after it. What was
reported since the last batch or stop is what the window holds. It is reported together, as one
batch with the last event of every issue, at the first poll that comes when the time allowed after
the last of these events is over, whatever became of the connection in the meantime; a batch is
reported at no other time, and only a stop drops events.

Proof: the window and its deadline agree with the history at the start, and every operation keeps
that up: one that is about no events by leaving both alone, one that takes in an event, reports a
batch or stops by what it does to both. -/
theorem events_delivered_once (config : StreamConfig) (inputs : List StreamInput) :
    Delivers config (steps inputs (create config)) ((create config).run inputs).state := by
  have coherent := create_coherent config
  have books := run_in_books inputs coherent (create_in_books config)
  exact books.delivers (coherent.moves (run_moves inputs coherent))

/-- Settings under which events are collected for three seconds. -/
def patientConfig : StreamConfig := { debounce := .ofMilliseconds 3000 }

/-- A message about an issue. -/
def issueMessage (name id : String) : StreamSignal :=
  .message name ("\x7b\"issue\":\x7b\"id\":\"" ++ id ++ "\"\x7d\x7d")

/-- Three events about two issues, one of them a deletion. -/
def threeEvents : List StreamInput :=
  [.start {} .epoch, .signal .epoch 1 .opened, .signal .epoch 1 (issueMessage "created" "bd-1"),
    .signal .epoch 1 (issueMessage "updated" "bd-2"),
    .signal .epoch 1 (issueMessage "deleted" "bd-1")]

/-- The connection fails, and the next attempt is refused. -/
def twoFailures : List StreamInput :=
  [.signal .epoch 1 (.failed "reset"),
    .poll { accepting := false } (Instant.epoch.after (.ofMilliseconds 1000))]

/-- The three events are reported together three seconds later, although there was no connection
since. -/
theorem batch_in_spite_of_failures :
    ∃ batch, tidings (((create patientConfig).run threeEvents).state.run
        (twoFailures ++ [.poll {} (Instant.epoch.after (.ofMilliseconds 3000))])).effects =
          [.batch batch] ∧
      batch.issueIds = ["bd-1", "bd-2"] ∧ batch.events.map IssueEvent.kind = [.deleted, .updated] ∧
      batch.kinds.toList = [.created, .updated, .deleted] := by
  have times : (outstanding (steps threeEvents (create patientConfig))).map Heard.time =
      [.epoch, .epoch, .epoch] := by decide +kernel
  obtain ⟨last, found⟩ : ∃ last,
      (outstanding (steps threeEvents (create patientConfig))).getLast? = some last :=
    Option.isSome_iff_exists.mp (by decide +kernel)
  have time : last.time = .epoch := by
    have mapped := congrArg List.getLast? times
    rw [List.getLast?_map, found] at mapped
    exact Option.some.inj mapped
  have waits : ∀ step ∈ steps twoFailures ((create patientConfig).run threeEvents).state,
      step.Waits (last.time.after patientConfig.debounce) := by
    intro step there
    rw [time]
    obtain rfl | there := List.mem_cons.mp there
    · exact ⟨StreamInput.noConfusion, by decide +kernel, fun _ _ => StreamInput.noConfusion⟩
    obtain rfl | there := List.mem_cons.mp there
    · refine ⟨StreamInput.noConfusion, by decide +kernel, ?_⟩
      rintro line now ⟨⟩
      decide
    · cases there
  have due : last.time.after patientConfig.debounce ≤
      Instant.epoch.after (.ofMilliseconds 3000) := by
    rw [time]
    decide
  exact ⟨_, (events_delivered_once patientConfig threeEvents).punctual last twoFailures {} _ found
    waits due, by decide +kernel, by decide +kernel, by decide +kernel⟩

end Subscription

end LiveTabs

import LiveTabs.Proofs.Stream.Reports
import LiveTabs.Proofs.Stream.Restart

/-!
# What befalls the connection

What comes to the connection of a subscription at an input can be told from the input, the present
connection and the calls that are made: a start or a poll dials, which may be refused, a signal says
that the connection is open or that it failed, or the subscription is stopped (`incidents`). What a
subscription knows about its failures (`Losses`) depends on these incidents alone, and each has the
same effect in whatever operation it happens: an open connection and the first attempt after a start
let everything be forgotten, and a failure counts, sets a time for the next attempt, and is the one
to warn of if it is the first. Only a poll does something else as well, once everything has
happened: it gives the warning that is due (`take_losses`).
-/

namespace LiveTabs

/-- What befalls the connection of a subscription. -/
inductive Incident where
  /-- A start led to an attempt to connect. -/
  | launched
  /-- A poll led to a further attempt. -/
  | redialled
  /-- The connection is open. -/
  | opened
  /-- The connection failed, or an attempt was refused. -/
  | failed (now : Instant)
  | stopped

/-- What a call comes to: an attempt, which is a failure as well if it is refused. -/
def NetworkCall.incidents (attempt : Incident) (now : Instant) : NetworkCall → List Incident
  | .dial _ _ true => [attempt]
  | .dial _ _ false => [attempt, .failed now]
  | .hangUp _ => []

/-- What a subscription knows about its failures. -/
structure Losses where
  backoff : Backoff
  reconnectAt : Option Instant
  lostAt : Option Instant
  warningAt : Option Instant

namespace Losses

/-- What is known after an incident, if a loss is borne for some time before it is warned of. -/
def after (patience : Option Duration) (losses : Losses) : Incident → Losses
  | .launched | .opened => ⟨losses.backoff.reset, none, none, none⟩
  | .redialled => { losses with reconnectAt := none }
  | .failed now =>
    { backoff := losses.backoff.countFailure
      reconnectAt := some (now.after losses.backoff.delay)
      lostAt := some (losses.lostAt.getD now)
      warningAt := if losses.lostAt.isSome then losses.warningAt else patience.map now.after }
  | .stopped => ⟨losses.backoff, none, none, none⟩

/-- What is known when the warning that is due at an input was given, and the warning. -/
def warn (losses : Losses) : StreamInput → Losses × List Duration
  | .poll _ now =>
    if Instant.isDue losses.warningAt now then
      ({ losses with warningAt := none }, losses.lostAt.toList.map (Instant.elapsed · now))
    else (losses, [])
  | .start _ _ | .stop | .signal _ _ _ => (losses, [])

/-- All that a warning changes is that it is not due any more. So a warning has no influence on the
attempts to connect. -/
theorem warn_keeps (losses : Losses) (input : StreamInput) :
    (losses.warn input).1.backoff = losses.backoff ∧
      (losses.warn input).1.reconnectAt = losses.reconnectAt ∧
      (losses.warn input).1.lostAt = losses.lostAt := by
  cases input with
  | start | stop | signal => exact ⟨rfl, rfl, rfl⟩
  | poll line now =>
    unfold warn
    dsimp only
    split <;> exact ⟨rfl, rfl, rfl⟩

end Losses

/-- An input with what befell the connection and what the subscription did. -/
structure Episode where
  input : StreamInput
  incidents : List Incident
  effects : List StreamEffect

namespace Subscription

open StreamEffect (calls warnings)

variable {subscription : Subscription}

/-- What befalls the connection at an input. Signals of other connections than the present one have
nothing to do with it, and a message says that the connection is open if that was not known. -/
def incidents (subscription : Subscription) (input : StreamInput) : List Incident :=
  match input with
  | .start _ now =>
    (calls (subscription.take input).effects).flatMap (NetworkCall.incidents .launched now)
  | .stop => [.stopped]
  | .poll _ now =>
    (calls (subscription.take input).effects).flatMap (NetworkCall.incidents .redialled now)
  | .signal now connection signal =>
    if subscription.connection = some connection then
      match signal with
      | .opened => [.opened]
      | .message _ _ => if subscription.state = .connecting then [.opened] else []
      | .failed _ => [.failed now]
    else []

/-- What a subscription makes of an input, with what befalls its connection. -/
def episode (subscription : Subscription) (input : StreamInput) : Episode :=
  ⟨input, subscription.incidents input, (subscription.take input).effects⟩

/-- The episodes of a run. -/
def episodes : List StreamInput → Subscription → List Episode
  | [], _ => []
  | input :: rest, subscription =>
    subscription.episode input :: episodes rest (subscription.take input).state

/-- What a subscription knows about its failures. -/
def losses (subscription : Subscription) : Losses :=
  ⟨subscription.backoff, subscription.reconnectAt, subscription.lostAt, subscription.warningAt⟩

/-- What is known after the incidents at an input. -/
def suffered (subscription : Subscription) (input : StreamInput) : Losses :=
  (subscription.incidents input).foldl (Losses.after subscription.config.disconnectWarning)
    subscription.losses

/-- What holds before a run, and is kept by every input that may come, holds after the run, with all
its episodes. -/
theorem episodes_keep (mayCome : StreamInput → Prop) (holds : List Episode → Subscription → Prop)
    (kept : ∀ history before input, before.Coherent → mayCome input → holds history before →
      holds (history ++ [before.episode input]) (before.take input).state)
    {history : List Episode} (coherent : subscription.Coherent)
    (begins : holds history subscription)
    (inputs : List StreamInput) (come : ∀ input ∈ inputs, mayCome input) :
    holds (history ++ episodes inputs subscription) (subscription.run inputs).state := by
  induction inputs generalizing history subscription with
  | nil => rwa [episodes, List.append_nil]
  | cons input rest inductionHypothesis =>
    obtain ⟨first, later⟩ := List.forall_mem_cons.mp come
    have after := inductionHypothesis (coherent.moves (take_moves input coherent))
      (kept history subscription input coherent first begins) later
    rwa [List.append_assoc] at after

/-- An operation that comes to some incidents and warns of nothing. -/
structure Suffers (patience : Option Duration) (known : Losses) (incidents : List Incident)
    (outcome : Result) : Prop where
  losses : outcome.state.losses = incidents.foldl (Losses.after patience) known
  silent : warnings outcome.effects = []
  /-- Nothing else happens after a failure. -/
  final : ∀ now, .failed now ∈ incidents → incidents.getLast? = some (.failed now)

/-- An operation may have nothing to do with the connection. Then it comes to no incident, and
nothing is known of it afterwards. -/
theorem Suffers.nothing {patience : Option Duration} {known : Losses} {outcome : Result}
    (same : outcome.state.losses = known) (silent : warnings outcome.effects = []) :
    Suffers patience known [] outcome :=
  ⟨same, silent, fun _ there => absurd there List.not_mem_nil⟩

/-- What is known after a loss is what a failure makes of what was known, by the account of
incidents alone. -/
theorem losses_of_lose (now : Instant) (subscription : Subscription) :
    (subscription.lose now).losses =
      subscription.losses.after subscription.config.disconnectWarning (.failed now) := by
  rw [lose_eq]
  rfl

/-- An attempt to connect is an incident, and a failure after it if it is refused. Starts and
further attempts both come down to this. -/
theorem dial_suffers (attempt : Incident) (line : Line) (now : Instant)
    (subscription : Subscription) {known : Losses} (harmless : ∀ now, attempt ≠ .failed now)
    (disconnected : subscription.connection = none) (ready : subscription.state ≠ .connecting)
    (begun : subscription.losses = known.after subscription.config.disconnectWarning attempt) :
    Suffers subscription.config.disconnectWarning known
      ((calls (subscription.dial line now).effects).flatMap (NetworkCall.incidents attempt now))
      (subscription.dial line now) := by
  rw [dial_eq line now disconnected ready]
  cases line.accepting with
  | true =>
    refine ⟨begun, rfl, ?_⟩
    intro failure there
    exact absurd (List.mem_singleton.mp there).symm (harmless failure)
  | false =>
    refine ⟨?_, rfl, ?_⟩
    · rw [if_neg Bool.false_ne_true, losses_of_lose]
      exact congrArg (Losses.after _ · _) begun
    · intro failure there
      obtain first | last := List.mem_cons.mp there
      · exact absurd first.symm (harmless failure)
      · exact congrArg some (List.mem_singleton.mp last).symm

/-- A subscription at rest knows nothing but a number of failures: there is no loss to get over, and
nothing is due. -/
theorem Resting.losses (resting : subscription.Resting) :
    subscription.losses = ⟨subscription.backoff, none, none, none⟩ := by
  rw [Subscription.losses, resting.reconnectAt, resting.lostAt, resting.warningAt]

/-- The first attempt after a start is an incident of its own, because it makes the subscription
forget its failures, and a further attempt does not. -/
theorem start_suffers_of_idle (line : Line) (now : Instant) {subscription : Subscription}
    (resting : subscription.Resting) (idle : subscription.state = .idle) :
    Suffers subscription.config.disconnectWarning subscription.losses
      ((calls (subscription.start line now).effects).flatMap (NetworkCall.incidents .launched now))
      (subscription.start line now) := by
  rw [start_of_idle line now idle]
  cases line.supported with
  | false =>
    rw [if_neg Bool.false_ne_true, moveTo, if_neg (by simp [idle])]
    exact Suffers.nothing rfl rfl
  | true =>
    let forgotten : Subscription := { subscription with backoff := subscription.backoff.reset }
    have begun : forgotten.losses =
        subscription.losses.after forgotten.config.disconnectWarning .launched := by
      have same : forgotten.Resting := { resting with }
      rw [same.losses]
      rfl
    exact dial_suffers .launched line now forgotten (fun _ => Incident.noConfusion)
      resting.disconnected (by simp [forgotten, idle]) begun

/-- A start comes to the incidents that its calls show, from whichever state; where it is ignored,
there are none. -/
theorem start_suffers (line : Line) (now : Instant) (coherent : subscription.Coherent) :
    Suffers subscription.config.disconnectWarning subscription.losses
      (subscription.incidents (.start line now)) (subscription.start line now) := by
  show Suffers _ _ ((calls (subscription.start line now).effects).flatMap _) _
  by_cases idle : subscription.state = .idle
  · exact start_suffers_of_idle line now (coherent.resting (by rw [idle]; rfl)) idle
  by_cases stopped : subscription.state = .stopped
  · have resting := coherent.resting (by rw [stopped]; rfl)
    let woken : Subscription := { subscription with state := .idle }
    have quiet : woken.Resting := { resting with }
    have begins := start_suffers_of_idle line now quiet rfl
    rw [start_of_stopped line now stopped]
    exact ⟨begins.losses, begins.silent, begins.final⟩
  · rw [start_ignored line now idle stopped]
    exact Suffers.nothing rfl rfl

/-- A stop lets everything be forgotten but the number of failures, and it ends the outage if there
is one. -/
theorem stop_suffers (coherent : subscription.Coherent) :
    Suffers subscription.config.disconnectWarning subscription.losses [.stopped]
      subscription.stop := by
  by_cases unsupported : subscription.state = .unsupported
  · have resting := coherent.resting (by rw [unsupported]; rfl)
    rw [stop, if_pos unsupported]
    exact ⟨resting.losses, rfl, by simp⟩
  · rw [stop_eq unsupported]
    refine ⟨rfl, ?_, by simp⟩
    cases subscription.connection <;> dsimp only <;> split <;> rfl

/-- A sign of life is an incident while the connection is not known to be open. Later ones tell
nothing new. -/
theorem show_alive_suffers (now : Instant) (unset : subscription.reconnectAt = none) :
    Suffers subscription.config.disconnectWarning subscription.losses
      (if subscription.state = .connecting then [.opened] else [])
      (subscription.showAlive now) := by
  unfold showAlive
  by_cases connecting : subscription.state = .connecting
  · rw [if_pos connecting, if_pos connecting]
    refine ⟨?_, rfl, by simp⟩
    show (⟨_, subscription.reconnectAt, _, _⟩ : Losses) = _
    rw [unset]
    rfl
  · rw [if_neg connecting, if_neg connecting]
    exact Suffers.nothing rfl rfl

/-- Taking in an event has nothing to do with the connection: the window is another matter. -/
theorem take_in_losses (now : Instant) (kind : EventKind) (data : String)
    (subscription : Subscription) :
    (subscription.takeIn now kind data).state.losses = subscription.losses ∧
      warnings (subscription.takeIn now kind data).effects = [] := by
  have silent : ∀ event : IssueEvent, warnings (eventReports event) = [] := by
    intro event
    unfold eventReports
    cases event.kind <;> rfl
  unfold takeIn
  cases IssueEvent.ofPayload kind data with
  | error fault => exact ⟨rfl, rfl⟩
  | ok event => exact ⟨rfl, silent event⟩

/-- A message is a sign of life, whether or not an event comes with it, and no more than that for
the account of incidents. -/
theorem take_message_suffers (now : Instant) (name data : String)
    (unset : subscription.reconnectAt = none) :
    Suffers subscription.config.disconnectWarning subscription.losses
      (if subscription.state = .connecting then [.opened] else [])
      (subscription.takeMessage now name data) := by
  have shows := show_alive_suffers now unset
  rw [take_message_eq]
  cases EventKind.ofName? name with
  | none => exact shows
  | some kind =>
    obtain ⟨same, silent⟩ := take_in_losses now kind data (subscription.showAlive now).state
    refine ⟨same.trans shows.losses, ?_, shows.final⟩
    dsimp only
    rw [Outcome.effects_andThen, StreamEffect.warnings_append, shows.silent, silent]
    rfl

/-- A signal comes to an incident if it is one of the present connection and says something new. -/
theorem receive_suffers (now : Instant) (connection : Nat) (signal : StreamSignal)
    (coherent : subscription.Coherent) :
    Suffers subscription.config.disconnectWarning subscription.losses
      (subscription.incidents (.signal now connection signal))
      (subscription.receive now connection signal) := by
  show Suffers _ _ (if _ then _ else _) (if _ then _ else _)
  by_cases present : subscription.connection = some connection
  · have dialled := coherent.connection.mp (by rw [present]; rfl)
    have unset : subscription.reconnectAt = none := by
      rw [← Option.not_isSome_iff_eq_none, coherent.retry]
      rintro waiting
      rw [waiting] at dialled
      simp at dialled
    rw [if_pos present, if_pos present]
    cases signal with
    | opened =>
      refine ⟨?_, ?_, by simp⟩
      · rw [mark_open_eq]
        show (⟨_, subscription.reconnectAt, _, _⟩ : Losses) = _
        rw [unset]
        rfl
      · rw [mark_open_eq]
        dsimp only
        split <;> rfl
    | message name data => exact take_message_suffers now name data unset
    | failed reason =>
      rw [fail_eq now dialled, present]
      exact ⟨losses_of_lose now subscription, rfl, by simp⟩
  · rw [if_neg present, if_neg present]
    exact Suffers.nothing rfl rfl

/-- A further attempt is an incident, and a failure after it if it is refused. It is the only look
of a poll that comes to incidents. -/
theorem poll_reconnect_suffers (line : Line) (now : Instant) (coherent : subscription.Coherent) :
    Suffers subscription.config.disconnectWarning subscription.losses
      ((calls (subscription.pollReconnect line now).effects).flatMap
        (NetworkCall.incidents .redialled now)) (subscription.pollReconnect line now) := by
  unfold pollReconnect
  by_cases due : Instant.isDue subscription.reconnectAt now = true
  · have waiting := coherent.retry.mp (Instant.isSome_of_is_due due)
    let cleared : Subscription := { subscription with reconnectAt := none }
    have disconnected : cleared.connection = none := coherent.disconnected (.inr waiting)
    rw [if_pos due, if_pos waiting]
    exact dial_suffers .redialled line now cleared (fun _ => Incident.noConfusion) disconnected
      (by simp [cleared, waiting]) rfl
  · rw [if_neg due]
    exact Suffers.nothing rfl rfl

/-- Closing the window has nothing to do with the connection: no call is made for it, and nothing is
warned of. -/
theorem poll_window_losses (now : Instant) (subscription : Subscription) :
    (subscription.pollWindow now).state.losses = subscription.losses ∧
      calls (subscription.pollWindow now).effects = [] ∧
      warnings (subscription.pollWindow now).effects = [] := by
  unfold pollWindow
  split
  · cases subscription.window.close now with
    | mk batch window => cases batch <;> exact ⟨rfl, rfl, rfl⟩
  · exact ⟨rfl, rfl, rfl⟩

/-- A warning is given if it is due, by what is known of the losses alone. The account of incidents
therefore tells when a poll warns. -/
theorem poll_warning_losses (line : Line) (now : Instant) (subscription : Subscription) :
    (subscription.pollWarning now).state.losses = (subscription.losses.warn (.poll line now)).1 ∧
      warnings (subscription.pollWarning now).effects =
        (subscription.losses.warn (.poll line now)).2 ∧
      calls (subscription.pollWarning now).effects = [] := by
  have told : subscription.losses.warn (.poll line now) =
      if Instant.isDue subscription.warningAt now then
        ({ subscription.losses with warningAt := none },
          subscription.lostAt.toList.map (Instant.elapsed · now))
      else (subscription.losses, []) := rfl
  rw [told]
  unfold pollWarning
  by_cases due : Instant.isDue subscription.warningAt now = true
  · rw [if_pos due, if_pos due]
    cases lost : subscription.lostAt <;> simp [losses, warnings, calls, lost]
  · rw [if_neg due, if_neg due]
    exact ⟨rfl, rfl, rfl⟩

/-- A poll makes no other calls than those of a further attempt, so its incidents can be read off
its calls. -/
theorem calls_poll (line : Line) (now : Instant) (subscription : Subscription) :
    calls (subscription.poll line now).effects =
      calls (subscription.pollReconnect line now).effects := by
  let redialled := (subscription.pollReconnect line now).state
  have window := (poll_window_losses now redialled).2.1
  have warning := (poll_warning_losses line now (redialled.pollWindow now).state).2.2
  rw [poll, Outcome.effects_andThen, Outcome.effects_andThen, StreamEffect.calls_append,
    StreamEffect.calls_append, window, List.append_nil]
  exact (congrArg (_ ++ ·) warning).trans (List.append_nil _)

/-- At every input the incidents change what a subscription knows about its failures, each in its
own way, and after them the warning that is due is given. -/
theorem take_losses (input : StreamInput) (coherent : subscription.Coherent) :
    (subscription.take input).state.losses = ((subscription.suffered input).warn input).1 ∧
      warnings (subscription.take input).effects =
        ((subscription.suffered input).warn input).2 := by
  cases input with
  | start line now =>
    have suffers := start_suffers line now coherent
    exact ⟨suffers.losses, suffers.silent⟩
  | stop =>
    have suffers := stop_suffers coherent
    exact ⟨suffers.losses, suffers.silent⟩
  | signal now connection signal =>
    have suffers := receive_suffers now connection signal coherent
    exact ⟨suffers.losses, suffers.silent⟩
  | poll line now =>
    let redialled := (subscription.pollReconnect line now).state
    let closed := (redialled.pollWindow now).state
    have redials := poll_reconnect_suffers line now coherent
    obtain ⟨same, -, silent⟩ := poll_window_losses now redialled
    obtain ⟨warned, told, -⟩ := poll_warning_losses line now closed
    have known : subscription.suffered (.poll line now) = closed.losses := by
      rw [same, redials.losses, ← calls_poll]
      rfl
    rw [known]
    refine ⟨warned, ?_⟩
    rw [take, poll, Outcome.effects_andThen, Outcome.effects_andThen, StreamEffect.warnings_append,
      StreamEffect.warnings_append, redials.silent, silent]
    exact told

/-- Nothing else befalls the connection after a failure at the same input. So the time that the
failure sets for the next attempt is still set afterwards. -/
theorem failure_is_last {input : StreamInput} {now : Instant} (coherent : subscription.Coherent)
    (failed : .failed now ∈ subscription.incidents input) :
    ∃ opening, subscription.incidents input = opening ++ [.failed now] := by
  apply List.getLast?_eq_some_iff.mp
  cases input with
  | start line later => exact (start_suffers line later coherent).final now failed
  | stop => exact (stop_suffers coherent).final now failed
  | signal later connection signal =>
    exact (receive_suffers later connection signal coherent).final now failed
  | poll line later =>
    have dialled : subscription.incidents (.poll line later) =
        (calls (subscription.pollReconnect line later).effects).flatMap
          (NetworkCall.incidents .redialled later) :=
      congrArg (List.flatMap _) (calls_poll line later subscription)
    rw [dialled] at failed ⊢
    exact (poll_reconnect_suffers line later coherent).final now failed

end Subscription

end LiveTabs

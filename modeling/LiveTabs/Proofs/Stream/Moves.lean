import LiveTabs.Proofs.Stream.WindowPositions
import LiveTabs.Proofs.Time.WholeMilliseconds
import LiveTabs.Stream.Subscription

/-!
# The moves of a subscription

What is done with a subscription from outside is one of four inputs: it is started, stopped or
polled, or a connection gives a signal. `Move` lists what a subscription can do at one go, with all
its effects; every input comes to a sequence of moves (`take_moves`). Between two moves the fields
of a subscription agree with its state (`Coherent`), and only in coherent subscriptions are the
moves as few as they are listed here. So what holds of all that a subscription ever does is shown
move by move and then follows for runs of any length (`run_moves`, `Moves.keep`).
-/

namespace LiveTabs

/-- What can be done with a subscription. -/
inductive StreamInput where
  | start (line : Line) (now : Instant)
  | stop
  | poll (line : Line) (now : Instant)
  /-- A connection gives a signal. -/
  | signal (now : Instant) (connection : Nat) (signal : StreamSignal)

namespace Window

/-- A window that is not empty is closed with a batch, and nothing is left of it. So what closing a
window does to a subscription is one move, whatever the batch holds. -/
theorem close_of_nonempty {window : Window} (now : Instant) (nonempty : window.isEmpty = false) :
    ∃ batch, window.close now = (some batch, {}) := by
  rw [close, nonempty]
  exact ⟨_, rfl⟩

end Window

namespace Subscription

/-- What a subscription makes of an input. -/
def take : StreamInput → Subscription → Result
  | .start line now, subscription => subscription.start line now
  | .stop, subscription => subscription.stop
  | .poll line now, subscription => subscription.poll line now
  | .signal now connection signal, subscription => subscription.receive now connection signal

/-- What a subscription makes of inputs, one after the other. -/
def run : List StreamInput → Subscription → Result
  | [], subscription => ⟨subscription, []⟩
  | input :: rest, subscription => (subscription.take input).andThen (run rest)

/-- A run may be cut in two, which is how a statement about every moment of a run is brought down to
one about its beginning and one about its rest. -/
theorem run_append (first second : List StreamInput) (subscription : Subscription) :
    subscription.run (first ++ second) = (subscription.run first).andThen (run second) := by
  induction first generalizing subscription with
  | nil => rfl
  | cons input rest inductionHypothesis =>
    rw [List.cons_append, run, run, Outcome.andThen_assoc]
    simp only [Outcome.andThen, inductionHypothesis]

/-- The last input of a run acts on what the others left. Inductions over runs that follow them
forwards go by this. -/
theorem run_concat (inputs : List StreamInput) (input : StreamInput) (subscription : Subscription) :
    subscription.run (inputs ++ [input]) = (subscription.run inputs).andThen (take input) := by
  rw [run_append]
  simp [Outcome.andThen, run]

/-- A subscription that neither runs nor has anything left from before. -/
structure Resting (subscription : Subscription) : Prop where
  disconnected : subscription.connection = none
  reconnectAt : subscription.reconnectAt = none
  debounceAt : subscription.debounceAt = none
  warningAt : subscription.warningAt = none
  lostAt : subscription.lostAt = none
  window : subscription.window = {}

/-- A subscription whose fields agree with its state. -/
structure Coherent (subscription : Subscription) : Prop where
  /-- There is a connection while one is open or being opened. -/
  connection : subscription.connection.isSome = true ↔
    subscription.state = .connecting ∨ subscription.state = .connected
  /-- A new attempt is set while one is waited for. -/
  retry : subscription.reconnectAt.isSome = true ↔ subscription.state = .waiting
  /-- The window is going to be closed while there is an event in it. -/
  closing : subscription.debounceAt.isSome = true ↔ subscription.window.isEmpty = false
  /-- Only a lost connection is warned of. -/
  warning : subscription.warningAt.isSome = true → subscription.lostAt.isSome = true
  /-- What is waited for was lost. -/
  lost : subscription.state = .waiting → subscription.lostAt.isSome = true
  /-- What was lost is waited for or is being opened again. -/
  losing : subscription.lostAt.isSome = true →
    subscription.state = .connecting ∨ subscription.state = .waiting
  /-- A failure is left in the operation in which it happens. -/
  settled : subscription.state ≠ .failed
  /-- A subscription that is not active has nothing in its window. -/
  window : subscription.state.isActive = false → subscription.window = {}
  /-- The positions in the window are those of its events. -/
  inStep : subscription.window.InStep

/-- The subscription after its connection was lost, however it was. -/
def lose (now : Instant) (subscription : Subscription) : Subscription :=
  { scheduleRetry now (noteLoss now subscription) with connection := none, state := .waiting }

/-- The subscription with the next connection under way. The first attempt after a start counts no
failures, and a further attempt is not made twice. -/
def redial (subscription : Subscription) : Subscription :=
  { subscription with
    state := .connecting
    backoff :=
      if subscription.state = .idle then subscription.backoff.reset else subscription.backoff
    nextConnection := subscription.nextConnection + 1
    reconnectAt := none }

/-- The subscription with its connection open. -/
def confirm (now : Instant) (subscription : Subscription) : Subscription :=
  { subscription with
    state := .connected
    backoff := subscription.backoff.reset
    lastHeartbeat := some now, lostAt := none, warningAt := none }

/-- The subscription with nothing left. -/
def clear (subscription : Subscription) : Subscription :=
  { subscription with
    state := .stopped
    connection := none
    reconnectAt := none, debounceAt := none, warningAt := none, lostAt := none
    window := {} }

/-- The effects of dialling the next connection. -/
def dialEffects (subscription : Subscription) (accepted : Bool) : List StreamEffect :=
  [.report (.stateChanged .connecting),
    .call (.dial subscription.nextConnection subscription.config.url accepted)]

/-- The effects of losing a connection. -/
def lossEffects : List StreamEffect :=
  [.report (.stateChanged .failed), .report (.stateChanged .waiting)]

/-- What a subscription does at one go: the effects, and the subscription afterwards. -/
inductive Move (subscription : Subscription) : List StreamEffect → Subscription → Prop
  /-- A stopped subscription is started again. -/
  | wake (stopped : subscription.state = .stopped) :
    Move subscription [.report (.stateChanged .idle)] { subscription with state := .idle }
  /-- The host cannot connect at all. -/
  | giveUp (idle : subscription.state = .idle) :
    Move subscription [.report (.stateChanged .unsupported)]
      { subscription with state := .unsupported }
  /-- The next connection is dialled, and that is taken up. -/
  | dial (ready : subscription.state = .idle ∨ subscription.state = .waiting) :
    Move subscription (subscription.dialEffects true)
      { subscription.redial with connection := some subscription.nextConnection }
  /-- The next connection is dialled, and that is refused. -/
  | beRefused (now : Instant) (ready : subscription.state = .idle ∨ subscription.state = .waiting) :
    Move subscription (subscription.dialEffects false ++ lossEffects) (lose now subscription.redial)
  /-- The connection fails. -/
  | fail (now : Instant) (connection : Nat) (present : subscription.connection = some connection) :
    Move subscription (.call (.hangUp connection) :: lossEffects) (lose now subscription)
  /-- The connection is known to be open now. -/
  | openUp (now : Instant) (connecting : subscription.state = .connecting) :
    Move subscription [.report (.stateChanged .connected)] (confirm now subscription)
  /-- The connection says once more that it is open. -/
  | stayOpen (now : Instant) (connected : subscription.state = .connected) :
    Move subscription [] (confirm now subscription)
  /-- The connection shows that it is alive. -/
  | hear (now : Instant) (connected : subscription.state = .connected) :
    Move subscription [] { subscription with lastHeartbeat := some now }
  /-- An event comes. -/
  | takeIn (now : Instant) (event : IssueEvent) (connected : subscription.state = .connected) :
    Move subscription (eventReports event)
      { subscription with
        window := subscription.window.add event
        debounceAt := some (now.after subscription.config.debounce) }
  /-- The window is closed. -/
  | report (now : Instant) (batch : Batch) (due : Instant.isDue subscription.debounceAt now = true)
    (closed : subscription.window.close now = (some batch, {})) :
    Move subscription [.report (.batch batch)]
      { subscription with debounceAt := none, window := {} }
  /-- The user is warned. -/
  | warn (now lostAt : Instant) (due : Instant.isDue subscription.warningAt now = true)
    (lost : subscription.lostAt = some lostAt) :
    Move subscription [.report (.disconnectWarning (Instant.elapsed lostAt now))]
      { subscription with warningAt := none }
  /-- The subscription is stopped. -/
  | stop (running : subscription.state ≠ .stopped) (supported : subscription.state ≠ .unsupported) :
    Move subscription
      (subscription.connection.toList.map (fun connection => .call (.hangUp connection)) ++
        [.report (.stateChanged .stopped)])
      subscription.clear

/-- Any number of moves, one after the other, with all their effects. -/
inductive Moves : Subscription → List StreamEffect → Subscription → Prop
  | none (subscription : Subscription) : Moves subscription [] subscription
  | next {before between after : Subscription} {first rest : List StreamEffect} :
    Move before first between → Moves between rest after → Moves before (first ++ rest) after

variable {subscription before after : Subscription} {effects : List StreamEffect}

/-- Sequences of moves may be put one after the other, as operations that come to moves may. -/
theorem Moves.append {between : Subscription} {first second : List StreamEffect}
    (moves : Moves before first between) (onward : Moves between second after) :
    Moves before (first ++ second) after := by
  induction moves with
  | none subscription => exact onward
  | next move rest inductionHypothesis =>
    rw [List.append_assoc]
    exact .next move (inductionHypothesis onward)

/-- One move is a sequence of moves, so an operation that is a single move needs no case of its
own. -/
theorem Move.alone (move : Move before effects after) : Moves before effects after := by
  have moves := Moves.next move (.none after)
  rwa [List.append_nil] at moves

/-- A subscription that is not active is at rest if its fields agree with its state. -/
theorem Coherent.resting (coherent : subscription.Coherent)
    (inactive : subscription.state.isActive = false) : subscription.Resting := by
  have elsewhere : ∀ state, StreamState.isActive state = true → subscription.state ≠ state := by
    rintro state active rfl
    rw [inactive] at active
    cases active
  have window := coherent.window inactive
  have lost : subscription.lostAt = none := by
    rw [Option.eq_none_iff_forall_ne_some]
    intro lostAt there
    have active := coherent.losing (by rw [there]; rfl)
    exact active.elim (elsewhere _ rfl) (elsewhere _ rfl)
  refine ⟨?_, ?_, ?_, ?_, lost, window⟩
  · rw [← Option.not_isSome_iff_eq_none, coherent.connection]
    exact not_or.mpr ⟨elsewhere _ rfl, elsewhere _ rfl⟩
  · rw [← Option.not_isSome_iff_eq_none, coherent.retry]
    exact elsewhere _ rfl
  · rw [← Option.not_isSome_iff_eq_none, coherent.closing, window]
    decide
  · rw [← Option.not_isSome_iff_eq_none]
    intro warns
    have there := coherent.warning warns
    rw [lost] at there
    cases there

/-- A subscription that is about to dial has no connection. So dialling hangs nothing up, and the
calls for connections take turns. -/
theorem Coherent.disconnected (coherent : subscription.Coherent)
    (ready : subscription.state = .idle ∨ subscription.state = .waiting) :
    subscription.connection = none := by
  rw [← Option.not_isSome_iff_eq_none, coherent.connection]
  obtain idle | waiting := ready
  · simp [idle]
  · simp [waiting]

/-- The fields of a subscription at rest agree with every state in which it is not active. -/
theorem Resting.coherent (resting : subscription.Resting)
    (inactive : subscription.state.isActive = false) : subscription.Coherent := by
  obtain ⟨disconnected, reconnectAt, debounceAt, warningAt, lostAt, window⟩ := resting
  constructor
  · rw [disconnected]
    cases state : subscription.state <;> simp_all [StreamState.isActive]
  · rw [reconnectAt]
    cases state : subscription.state <;> simp_all [StreamState.isActive]
  · rw [debounceAt, window]
    decide
  · simp [warningAt]
  · intro waiting
    rw [waiting] at inactive
    cases inactive
  · simp [lostAt]
  · intro failed
    rw [failed] at inactive
    cases inactive
  · exact fun _ => window
  · rw [window]
    exact Window.empty_in_step

/-- What noting a loss changes: only the first loss of an outage is noted, and it is the one that
sets the time of the warning. -/
theorem note_loss_eq (now : Instant) (subscription : Subscription) :
    noteLoss now subscription = { subscription with
      lostAt := some (subscription.lostAt.getD now)
      warningAt := if subscription.lostAt.isSome then subscription.warningAt
        else subscription.config.disconnectWarning.map now.after } := by
  obtain ⟨config, state, backoff, connection, number, reconnectAt, debounceAt, warningAt, lostAt⟩ :=
    subscription
  cases lostAt <;> rfl

/-- What a loss changes, field by field. All that is proved of failures rests on this equation and
not on the operations that a loss is made of. -/
theorem lose_eq (now : Instant) (subscription : Subscription) :
    lose now subscription = { subscription with
      state := .waiting
      connection := none
      backoff := subscription.backoff.countFailure
      reconnectAt := some (now.after subscription.backoff.delay)
      lostAt := some (subscription.lostAt.getD now)
      warningAt := if subscription.lostAt.isSome then subscription.warningAt
        else subscription.config.disconnectWarning.map now.after } := by
  rw [lose, note_loss_eq]
  rfl

/-- A loss leaves the fields in agreement with the state if the window and its deadline were. -/
theorem lose_coherent (now : Instant)
    (closing : subscription.debounceAt.isSome = true ↔ subscription.window.isEmpty = false)
    (inStep : subscription.window.InStep) : (lose now subscription).Coherent := by
  rw [lose_eq]
  constructor
  · simp
  · simp
  · exact closing
  · simp
  · simp
  · simp
  · simp
  · simp [StreamState.isActive]
  · exact inStep

/-- An open connection leaves the fields in agreement with the state: nothing is due any more that
has to do with a loss. -/
theorem Coherent.confirm (coherent : subscription.Coherent) (now : Instant)
    (dialled : subscription.state = .connecting ∨ subscription.state = .connected) :
    (subscription.confirm now).Coherent := by
  have there := coherent.connection.mpr dialled
  have unset : subscription.reconnectAt = none := by
    rw [← Option.not_isSome_iff_eq_none, coherent.retry]
    rintro waiting
    rw [waiting] at dialled
    simp at dialled
  constructor
  · simp [Subscription.confirm, there]
  · simp [Subscription.confirm, unset]
  · exact coherent.closing
  · simp [Subscription.confirm]
  · simp [Subscription.confirm]
  · simp [Subscription.confirm]
  · simp [Subscription.confirm]
  · simp [Subscription.confirm, StreamState.isActive]
  · exact coherent.inStep

/-- Every move leaves the fields in agreement with the state. This is the step of the invariant:
there is one case for each kind of move, and none for the operations that make it. -/
theorem Coherent.move (coherent : before.Coherent) (move : Move before effects after) :
    after.Coherent := by
  cases move with
  | wake stopped =>
    have resting := coherent.resting (by rw [stopped]; rfl)
    exact Resting.coherent { resting with } rfl
  | giveUp idle =>
    have resting := coherent.resting (by rw [idle]; rfl)
    exact Resting.coherent { resting with } rfl
  | dial ready =>
    constructor
    · simp [redial]
    · simp [redial]
    · exact coherent.closing
    · exact coherent.warning
    · simp [redial]
    · simp [redial]
    · simp [redial]
    · simp [redial, StreamState.isActive]
    · exact coherent.inStep
  | beRefused now ready => exact lose_coherent now coherent.closing coherent.inStep
  | fail now connection present => exact lose_coherent now coherent.closing coherent.inStep
  | openUp now connecting => exact coherent.confirm now (.inl connecting)
  | stayOpen now connected => exact coherent.confirm now (.inr connected)
  | hear now connected => exact { coherent with }
  | takeIn now event connected =>
    have active : before.state.isActive = true := by rw [connected]; rfl
    refine { coherent with closing := ?_, window := ?_, inStep := coherent.inStep.add event }
    · simp [coherent.inStep.is_empty_add event]
    · intro inactive
      rw [active] at inactive
      cases inactive
  | report now batch due closed =>
    refine { coherent with
      closing := ?_, window := fun _ => rfl, inStep := Window.empty_in_step }
    simp [Window.isEmpty]
  | warn now lostAt due lost => exact { coherent with warning := by simp }
  | stop running supported => exact Resting.coherent ⟨rfl, rfl, rfl, rfl, rfl, rfl⟩ rfl

/-- Every sequence of moves leaves the fields in agreement with the state, so whatever is shown to
come to moves keeps them so. -/
theorem Coherent.moves (coherent : before.Coherent) (moves : Moves before effects after) :
    after.Coherent := by
  induction moves with
  | none subscription => exact coherent
  | next move rest inductionHypothesis => exact inductionHypothesis (coherent.move move)

/-- A new subscription is coherent, which is where runs begin. -/
theorem create_coherent (config : StreamConfig) : (create config).Coherent :=
  Resting.coherent ⟨rfl, rfl, rfl, rfl, rfl, rfl⟩ rfl

/-- The effects of an operation that comes to moves, and of one that comes to moves from where it
ended, are those of all these moves. -/
theorem Moves.andThen {outcome : Result} {next : Subscription → Result}
    (moves : Moves before outcome.effects outcome.state)
    (onward : Moves outcome.state (next outcome.state).effects (next outcome.state).state) :
    Moves before (outcome.andThen next).effects (outcome.andThen next).state :=
  moves.append onward

/-- What a failure comes to while a connection is open or being opened: the connection is hung up,
the loss is noted, and the new state is reported. -/
theorem fail_eq (now : Instant) (dialled : subscription.state = .connecting ∨
    subscription.state = .connected) :
    subscription.fail now = ⟨subscription.lose now,
      subscription.connection.toList.map (fun connection => .call (.hangUp connection)) ++
        lossEffects⟩ := by
  obtain ⟨config, state, backoff, connection, number, reconnectAt, debounceAt, warningAt, lostAt⟩ :=
    subscription
  obtain rfl | rfl := dialled <;> cases connection <;> cases lostAt <;> rfl

/-- What dialling comes to where nothing is dialled yet: a connection under the next number, or, if
the host refuses it at once, a loss right after it. -/
theorem dial_eq (line : Line) (now : Instant) (disconnected : subscription.connection = none)
    (ready : subscription.state ≠ .connecting) :
    subscription.dial line now =
      let dialled := { subscription with
        state := .connecting, nextConnection := subscription.nextConnection + 1 }
      if line.accepting then
        ⟨{ dialled with connection := some subscription.nextConnection },
          subscription.dialEffects true⟩
      else ⟨dialled.lose now, subscription.dialEffects false ++ lossEffects⟩ := by
  have moved : moveTo .connecting subscription.numberNext =
      ⟨{ subscription with
        state := .connecting, nextConnection := subscription.nextConnection + 1 },
        [.report (.stateChanged .connecting)]⟩ := by
    rw [moveTo, if_neg (by exact ready)]
    rfl
  simp only [dial, hangUp, disconnected, quietly, Outcome.andThen, moved]
  cases line.accepting with
  | true => rfl
  | false =>
    rw [fail_eq now (.inl rfl)]
    simp [dialEffects]

/-- Dialling is one move, whether after a start or after a failure. The two differ in the failures
that are counted, and the move says so. -/
theorem dial_moves (line : Line) (now : Instant) (coherent : before.Coherent)
    (ready : before.state = .idle ∨ before.state = .waiting) {prepared : Subscription}
    (prepares : prepared = { before with
      backoff := if before.state = .idle then before.backoff.reset else before.backoff
      reconnectAt := none }) :
    Moves before (prepared.dial line now).effects (prepared.dial line now).state := by
  have disconnected := coherent.disconnected ready
  have fresh : before.state ≠ .connecting := by
    obtain idle | waiting := ready
    · simp [idle]
    · simp [waiting]
  rw [dial_eq line now (by rw [prepares]; exact disconnected) (by rw [prepares]; exact fresh),
    prepares]
  cases line.accepting with
  | true => exact (Move.dial ready).alone
  | false => exact (Move.beRefused now ready).alone

/-- An idle subscription that is started dials, if the host can connect. Otherwise it is unsupported
from then on. -/
theorem start_of_idle (line : Line) (now : Instant) (idle : subscription.state = .idle) :
    subscription.start line now =
      if line.supported then
        dial line now { subscription with backoff := subscription.backoff.reset }
      else moveTo .unsupported subscription := by
  cases subscription
  cases idle
  rfl

/-- A start of an idle subscription comes to moves: it dials, or finds that the host cannot
connect. -/
theorem start_moves_of_idle (line : Line) (now : Instant) (coherent : before.Coherent)
    (idle : before.state = .idle) :
    Moves before (before.start line now).effects (before.start line now).state := by
  rw [start_of_idle line now idle]
  cases line.supported with
  | false =>
    rw [if_neg Bool.false_ne_true, moveTo, if_neg (by simp [idle])]
    exact (Move.giveUp idle).alone
  | true =>
    have unset := (coherent.resting (by rw [idle]; rfl)).reconnectAt
    refine dial_moves line now coherent (.inl idle) ?_
    rw [if_pos idle, ← unset]

/-- A stopped subscription is idle for a moment before it starts, so a start from there is a move
and then a start from the idle state. -/
theorem start_of_stopped (line : Line) (now : Instant) (stopped : subscription.state = .stopped) :
    subscription.start line now =
      (Outcome.mk { subscription with state := .idle } [.report (.stateChanged .idle)]).andThen
        (start line now) := by
  simp only [start, stopped, moveTo]
  rfl

/-- A subscription that is neither idle nor stopped ignores a start: it is at work already, or
cannot work at all. -/
theorem start_ignored (line : Line) (now : Instant) (begun : subscription.state ≠ .idle)
    (running : subscription.state ≠ .stopped) :
    subscription.start line now = ⟨subscription, []⟩ := by
  unfold start
  cases state : subscription.state with
  | idle => exact absurd state begun
  | stopped => exact absurd state running
  | connecting | connected | waiting | failed | unsupported => rfl

/-- A start comes to moves, from whichever state: from the idle one directly, from the stopped one
by way of it, and from all others there are none. -/
theorem start_moves (line : Line) (now : Instant) (coherent : before.Coherent) :
    Moves before (before.start line now).effects (before.start line now).state := by
  by_cases idle : before.state = .idle
  · exact start_moves_of_idle line now coherent idle
  by_cases stopped : before.state = .stopped
  · have wake := Move.wake stopped
    rw [start_of_stopped line now stopped]
    exact wake.alone.andThen (start_moves_of_idle line now (coherent.move wake) rfl)
  · rw [start_ignored line now idle stopped]
    exact .none before

/-- What stopping a supported subscription comes to: the present connection is hung up, everything
is cleared, and the state is reported if it is a new one. -/
theorem stop_eq (supported : subscription.state ≠ .unsupported) :
    subscription.stop = ⟨subscription.clear,
      subscription.connection.toList.map (fun connection => .call (.hangUp connection)) ++
        if subscription.state = .stopped then [] else [.report (.stateChanged .stopped)]⟩ := by
  have settles : ∀ cleared : Subscription, cleared.state = subscription.state →
      moveTo .stopped cleared = ⟨{ cleared with state := .stopped },
        if subscription.state = .stopped then [] else [.report (.stateChanged .stopped)]⟩ := by
    intro cleared same
    rw [moveTo, same]
    by_cases stopped : subscription.state = .stopped
    · rw [if_pos stopped, if_pos stopped, ← stopped, ← same]
    · rw [if_neg stopped, if_neg stopped]
  rw [stop, if_neg supported]
  cases connection : subscription.connection with
  | none => simp [hangUp, Outcome.andThen, settles, Window.clear, clear]
  | some present => simp [hangUp, Outcome.andThen, settles, Window.clear, clear]

/-- There is nothing to clear in a stopped subscription, so to stop it again changes nothing. -/
theorem Resting.clear_eq (resting : subscription.Resting)
    (stopped : subscription.state = .stopped) : subscription.clear = subscription := by
  obtain ⟨disconnected, reconnectAt, debounceAt, warningAt, lostAt, window⟩ := resting
  cases subscription
  simp_all [clear]

/-- A stop comes to moves: one if something was going on, and none if the subscription was stopped
or is unsupported. -/
theorem stop_moves (coherent : before.Coherent) :
    Moves before before.stop.effects before.stop.state := by
  by_cases unsupported : before.state = .unsupported
  · rw [stop, if_pos unsupported]
    exact .none before
  by_cases stopped : before.state = .stopped
  · have resting := coherent.resting (by rw [stopped]; rfl)
    rw [stop_eq unsupported, if_pos stopped, resting.clear_eq stopped, resting.disconnected]
    exact .none before
  · rw [stop_eq unsupported, if_neg stopped]
    exact (Move.stop stopped unsupported).alone

/-- What a sign that the connection is open comes to: the first one changes the state, and any
further one only the time of the last sign. -/
theorem mark_open_eq (now : Instant) (subscription : Subscription) :
    subscription.markOpen now = ⟨subscription.confirm now,
      if subscription.state = .connected then [] else [.report (.stateChanged .connected)]⟩ := by
  by_cases connected : subscription.state = .connected
  · simp [markOpen, moveTo, connected, confirm]
  · simp [markOpen, moveTo, connected, confirm]

/-- What a message says by coming at all: that the connection is alive, and thus open. -/
def showAlive (now : Instant) (subscription : Subscription) : Result :=
  if subscription.state = .connecting then
    ⟨subscription.confirm now, [.report (.stateChanged .connected)]⟩
  else ⟨{ subscription with lastHeartbeat := some now }, []⟩

/-- A message is a sign of life, and an event follows it if the message has the name of one. -/
theorem take_message_eq (now : Instant) (name data : String) (subscription : Subscription) :
    subscription.takeMessage now name data =
      match EventKind.ofName? name with
      | none => subscription.showAlive now
      | some kind => (subscription.showAlive now).andThen (takeIn now kind data) := by
  let alive : Subscription := { subscription with lastHeartbeat := some now }
  have opened : (if alive.state = .connecting then markOpen now alive else ⟨alive, []⟩) =
      subscription.showAlive now := by
    by_cases connecting : subscription.state = .connecting
    · rw [if_pos connecting, showAlive, if_pos connecting, mark_open_eq, if_neg]
      · rfl
      · simp [alive, connecting]
    · rw [if_neg connecting, showAlive, if_neg connecting]
  rw [takeMessage, opened]
  by_cases heartbeat : name = heartbeatName
  · rw [if_pos heartbeat, heartbeat]
    rfl
  · exact if_neg heartbeat

/-- A sign of life comes to a move, after which the connection is known to be open. A message that
comes with it is then taken in by a connected subscription. -/
theorem show_alive_moves (now : Instant)
    (dialled : before.state = .connecting ∨ before.state = .connected) :
    Moves before (before.showAlive now).effects (before.showAlive now).state ∧
      (before.showAlive now).state.state = .connected := by
  rw [showAlive]
  obtain connecting | connected := dialled
  · rw [if_pos connecting]
    exact ⟨(Move.openUp now connecting).alone, rfl⟩
  · rw [if_neg (by simp [connected])]
    exact ⟨(Move.hear now connected).alone, connected⟩

/-- A message comes to moves, after which the connection is known to be open: the sign of life that
it is, and the event that it may bring. -/
theorem take_message_moves (now : Instant) (name data : String)
    (dialled : before.state = .connecting ∨ before.state = .connected) :
    Moves before (before.takeMessage now name data).effects
      (before.takeMessage now name data).state ∧
      (before.takeMessage now name data).state.state = .connected := by
  obtain ⟨shows, connected⟩ := show_alive_moves now dialled
  rw [take_message_eq]
  cases EventKind.ofName? name with
  | none => exact ⟨shows, connected⟩
  | some kind =>
    dsimp only
    rw [Outcome.state_andThen, Outcome.effects_andThen, takeIn]
    cases IssueEvent.ofPayload kind data with
    | error fault => exact ⟨shows.append (.none _), connected⟩
    | ok event => exact ⟨shows.append (Move.takeIn now event connected).alone, connected⟩

/-- A signal of a connection comes to moves, and to none if the connection is not the present
one. -/
theorem receive_moves (now : Instant) (connection : Nat) (signal : StreamSignal)
    (coherent : before.Coherent) :
    Moves before (before.receive now connection signal).effects
      (before.receive now connection signal).state := by
  by_cases present : before.connection = some connection
  · have dialled := coherent.connection.mp (by rw [present]; rfl)
    unfold receive
    rw [if_pos present]
    cases signal with
    | opened =>
      rw [mark_open_eq]
      by_cases connected : before.state = .connected
      · rw [if_pos connected]
        exact (Move.stayOpen now connected).alone
      · rw [if_neg connected]
        exact (Move.openUp now (dialled.resolve_right connected)).alone
    | message name data => exact (take_message_moves now name data dialled).1
    | failed reason =>
      rw [fail_eq now dialled, present]
      exact (Move.fail now connection present).alone
  · unfold receive
    rw [if_neg present]
    exact .none before

/-- Looking whether to dial again comes to moves: the first of the three looks that a poll is made
of. -/
theorem poll_reconnect_moves (line : Line) (now : Instant) (coherent : before.Coherent) :
    Moves before (before.pollReconnect line now).effects
      (before.pollReconnect line now).state := by
  unfold pollReconnect
  by_cases due : Instant.isDue before.reconnectAt now = true
  · have waiting : before.state = .waiting := by
      rw [← coherent.retry]
      exact Instant.isSome_of_is_due due
    rw [if_pos due, if_pos waiting]
    refine dial_moves line now coherent (.inr waiting) ?_
    rw [if_neg (by simp [waiting])]
  · rw [if_neg due]
    exact .none before

/-- Looking whether to close the window comes to moves: the second of the three looks that a poll is
made of. -/
theorem poll_window_moves (now : Instant) (coherent : before.Coherent) :
    Moves before (before.pollWindow now).effects (before.pollWindow now).state := by
  unfold pollWindow
  by_cases due : Instant.isDue before.debounceAt now = true
  · have nonempty : before.window.isEmpty = false := by
      rw [← coherent.closing]
      exact Instant.isSome_of_is_due due
    obtain ⟨batch, closed⟩ := Window.close_of_nonempty now nonempty
    rw [if_pos due, closed]
    exact (Move.report now batch due closed).alone
  · rw [if_neg due]
    exact .none before

/-- Looking whether to warn comes to moves: the last of the three looks that a poll is made of. -/
theorem poll_warning_moves (now : Instant) (coherent : before.Coherent) :
    Moves before (before.pollWarning now).effects (before.pollWarning now).state := by
  unfold pollWarning
  by_cases due : Instant.isDue before.warningAt now = true
  · have lost := coherent.warning (Instant.isSome_of_is_due due)
    obtain ⟨lostAt, lost⟩ := Option.isSome_iff_exists.mp lost
    have move := (Move.warn now lostAt due lost).alone
    rw [if_pos due]
    simpa [lost] using move
  · rw [if_neg due]
    exact .none before

/-- A poll comes to moves, since each of its three looks finds a coherent subscription and leaves
one. -/
theorem poll_moves (line : Line) (now : Instant) (coherent : before.Coherent) :
    Moves before (before.poll line now).effects (before.poll line now).state := by
  have redials := poll_reconnect_moves line now coherent
  have between := coherent.moves redials
  have closes := redials.andThen (poll_window_moves now between)
  exact closes.andThen (poll_warning_moves now (coherent.moves closes))

/-- Every input comes to moves. From here on statements about inputs are statements about moves, of
which there are few. -/
theorem take_moves (input : StreamInput) (coherent : before.Coherent) :
    Moves before (before.take input).effects (before.take input).state := by
  cases input with
  | start line now => exact start_moves line now coherent
  | stop => exact stop_moves coherent
  | poll line now => exact poll_moves line now coherent
  | signal now connection signal => exact receive_moves now connection signal coherent

/-- Every run comes to moves, so what every move keeps up holds throughout every run. -/
theorem run_moves (inputs : List StreamInput) (coherent : before.Coherent) :
    Moves before (before.run inputs).effects (before.run inputs).state := by
  induction inputs generalizing before with
  | nil => exact .none before
  | cons input rest inductionHypothesis =>
    have moves := take_moves input coherent
    exact moves.andThen (inductionHypothesis (coherent.moves moves))

/-- What holds before any move, and is kept by every move of a coherent subscription, holds after
all moves, with all their effects. -/
theorem Moves.keep (holds : List StreamEffect → Subscription → Prop) (coherent : before.Coherent)
    (begins : holds [] before)
    (kept : ∀ history effects before after, before.Coherent → holds history before →
      Move before effects after → holds (history ++ effects) after)
    (moves : Moves before effects after) : holds effects after := by
  have carried : ∀ history effects before after, before.Coherent → holds history before →
      Moves before effects after → holds (history ++ effects) after := by
    intro history effects before after coherent held moves
    induction moves generalizing history with
    | none subscription => rwa [List.append_nil]
    | next move rest inductionHypothesis =>
      rw [← List.append_assoc]
      exact inductionHypothesis _ (coherent.move move) (kept _ _ _ _ coherent held move)
  exact carried [] _ _ _ coherent begins moves

end Subscription

end LiveTabs

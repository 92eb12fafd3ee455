import LiveTabs.Proofs.Stream.StatePath

/-!
# Restarts

A subscription that is stopped and started again goes on like a new one. What tells them apart is
the number of the next connection, which goes on from the connections before the stop, and the last
sign of life, which is that of the time before until there is a new one. No operation looks at
either: under other numbers it does the same, under other numbers (`Blind`). So the two go on alike
for as long as the same is done with both, and signals of the connections before the stop are
signals of none to either.
-/

namespace LiveTabs

/-- A call under numbers that follow those used up by others. -/
def NetworkCall.after (used : Nat) : NetworkCall → NetworkCall
  | .dial connection url accepted => .dial (connection + used) url accepted
  | .hangUp connection => .hangUp (connection + used)

/-- An effect under numbers that follow those used up by others. -/
def StreamEffect.after (used : Nat) : StreamEffect → StreamEffect
  | .report content => .report content
  | .call made => .call (made.after used)

/-- An input with the numbers counted from those used up by others. What is used up becomes zero,
which is the number of no connection. -/
def StreamInput.since (used : Nat) : StreamInput → StreamInput
  | .start line now => .start line now
  | .stop => .stop
  | .poll line now => .poll line now
  | .signal now connection content => .signal now (connection - used) content

/-- Whether a signal is a sign of life. -/
def StreamSignal.IsSign : StreamSignal → Prop
  | .opened | .message _ _ => True
  | .failed _ => False

namespace Subscription

/-- A subscription under numbers that follow those used up by others, with the last sign of life
that these got. -/
def after (used : Nat) (past : Option Instant) (subscription : Subscription) : Subscription :=
  { subscription with
    connection := subscription.connection.map (· + used)
    nextConnection := subscription.nextConnection + used
    lastHeartbeat := subscription.lastHeartbeat.or past }

/-- What a subscription does, under numbers that follow those used up by others. -/
def recount (used : Nat) (past : Option Instant) (outcome : Result) : Result :=
  ⟨outcome.state.after used past, outcome.effects.map (StreamEffect.after used)⟩

/-- An operation that does the same under other numbers. -/
def Blind (used : Nat) (past : Option Instant) (operation : Subscription → Result) : Prop :=
  ∀ subscription : Subscription,
    operation (subscription.after used past) = recount used past (operation subscription)

section Blindness

variable {used : Nat} {past : Option Instant}

/-- Under other numbers one operation follows another if it does the same under these. -/
theorem recount_andThen (outcome : Result) {next renumbered : Subscription → Result}
    (same : ∀ subscription : Subscription,
      renumbered (subscription.after used past) = recount used past (next subscription)) :
    (recount used past outcome).andThen renumbered = recount used past (outcome.andThen next) := by
  obtain ⟨state, effects⟩ := outcome
  simp only [recount, Outcome.andThen, same, List.map_append]

/-- Blind operations may follow each other, so an operation is blind if its parts are. -/
theorem Blind.andThen {first next : Subscription → Result} (blind : Blind used past first)
    (later : Blind used past next) :
    Blind used past fun subscription => (first subscription).andThen next := by
  intro subscription
  show (first _).andThen next = _
  rw [blind, recount_andThen _ later]

/-- A blind operation may be chosen by what is the same under other numbers. This is how branches
are dealt with: the condition may look at everything but the numbers and what is past. -/
theorem Blind.choose {condition : Subscription → Prop} [DecidablePred condition]
    {first second : Subscription → Result} (blind : Blind used past first)
    (other : Blind used past second)
    (same : ∀ subscription : Subscription,
      condition (subscription.after used past) ↔ condition subscription) :
    Blind used past fun subscription =>
      if condition subscription then first subscription else second subscription := by
  intro subscription
  by_cases holds : condition subscription
  · show (if condition _ then _ else _) =
      recount used past (if condition subscription then _ else _)
    rw [if_pos holds, if_pos ((same subscription).mpr holds)]
    exact blind subscription
  · show (if condition _ then _ else _) =
      recount used past (if condition subscription then _ else _)
    rw [if_neg holds, if_neg fun there => holds ((same subscription).mp there)]
    exact other subscription

/-- A change of the fields with effects is blind if both are. Operations that do no more than that
are blind by this lemma. -/
theorem blind_of_change {change : Subscription → Subscription}
    {effects : Subscription → List StreamEffect} (changes : ∀ subscription : Subscription,
      change (subscription.after used past) = (change subscription).after used past)
    (does : ∀ subscription : Subscription,
      effects (subscription.after used past) =
        (effects subscription).map (StreamEffect.after used)) :
    Blind used past fun subscription => ⟨change subscription, effects subscription⟩ := by
  intro subscription
  dsimp only
  rw [changes, does]
  rfl

/-- Doing nothing is blind, which is the branch in which an operation does not apply. -/
theorem blind_nothing : Blind used past fun subscription => ⟨subscription, []⟩ := fun _ => rfl

/-- Going over to a state is blind: it is reported if it is a new one, and states have no
numbers. -/
theorem blind_move_to (state : StreamState) : Blind used past (moveTo state) :=
  blind_nothing.choose (blind_of_change (fun _ => rfl) fun _ => rfl) fun _ => Iff.rfl

/-- The present connection is hung up under its number, so under other numbers the call is the same
but for the number. -/
theorem blind_hang_up : Blind used past hangUp := by
  rintro ⟨config, state, backoff, connection⟩
  cases connection <;> rfl

/-- A failure is dealt with blindly: the connection is hung up under its number, and the rest of
what a loss does looks at no number. -/
theorem blind_fail (now : Instant) : Blind used past (fail now) := by
  have notes : Blind used past (quietly (noteLoss now)) := by
    refine blind_of_change ?_ fun _ => rfl
    intro subscription
    rw [note_loss_eq, note_loss_eq]
    rfl
  have schedules : Blind used past (quietly (scheduleRetry now)) :=
    blind_of_change (fun _ => rfl) fun _ => rfl
  have deals := (((blind_hang_up.andThen (blind_move_to .failed)).andThen notes).andThen
    schedules).andThen (blind_move_to .waiting)
  intro subscription
  have same : (subscription.after used past).state = subscription.state := rfl
  unfold fail
  rw [same]
  cases subscription.state with
  | connecting | connected => exact deals subscription
  | idle | waiting | failed | stopped | unsupported => rfl

/-- The last step of dialling: the connection is under way, or it is refused. -/
def attempt (line : Line) (now : Instant) (number : Nat) (dialling : Subscription) : Result :=
  let call := .call (.dial number dialling.config.url line.accepting)
  if line.accepting then ⟨{ dialling with connection := some number }, [call]⟩
  else (Outcome.mk dialling [call]).andThen (fail now)

/-- The next connection is dialled under its number, and so is whatever follows if the attempt is
refused. -/
theorem blind_dial (line : Line) (now : Instant) : Blind used past (dial line now) := by
  have numbers : Blind used past (quietly numberNext) := by
    refine blind_of_change ?_ fun _ => rfl
    intro subscription
    simp [numberNext, after, Nat.add_right_comm]
  have prepares := (blind_hang_up.andThen numbers).andThen (blind_move_to .connecting)
  have attempts : ∀ (number : Nat) (dialling : Subscription),
      attempt line now (number + used) (dialling.after used past) =
        recount used past (attempt line now number dialling) := by
    intro number dialling
    unfold attempt
    cases line.accepting with
    | true => rfl
    | false =>
      let refusal : Result := ⟨dialling, [.call (.dial number dialling.config.url false)]⟩
      exact recount_andThen refusal (blind_fail now)
  intro subscription
  have renumbered := recount_andThen
    ((subscription.hangUp.andThen (quietly numberNext)).andThen (moveTo .connecting))
    (attempts subscription.nextConnection)
  exact (congrArg (Outcome.andThen · _) (prepares subscription)).trans renumbered

/-- An open connection is noted blindly, since its number is not looked at again. -/
theorem blind_mark_open (now : Instant) : Blind used past (markOpen now) :=
  fun subscription => blind_move_to .connected
    { subscription with
      backoff := subscription.backoff.reset
      lastHeartbeat := some now, lostAt := none, warningAt := none }

/-- An event is taken in blindly: the window and its deadline know of no connection. -/
theorem blind_take_in (now : Instant) (kind : EventKind) (data : String) :
    Blind used past (takeIn now kind data) := by
  intro subscription
  unfold takeIn
  cases IssueEvent.ofPayload kind data with
  | error fault => rfl
  | ok event =>
    have silent : (eventReports event).map (StreamEffect.after used) = eventReports event := by
      unfold eventReports
      cases event.kind <;> rfl
    show Outcome.mk _ (eventReports event) = Outcome.mk _ ((eventReports event).map _)
    rw [silent]
    rfl

/-- A message is taken in blindly, as a sign of life and then as an event if it brings one. -/
theorem blind_take_message (now : Instant) (name data : String) :
    Blind used past (takeMessage now name data) := by
  have shows : Blind used past (showAlive now) :=
    Blind.choose (blind_of_change (fun _ => rfl) fun _ => rfl)
      (blind_of_change (fun _ => rfl) fun _ => rfl) fun _ => Iff.rfl
  intro subscription
  rw [take_message_eq, take_message_eq]
  cases EventKind.ofName? name with
  | none => exact shows subscription
  | some kind => exact shows.andThen (blind_take_in now kind data) subscription

/-- A start is blind, whether the subscription is idle, stopped or at work. -/
theorem blind_start (line : Line) (now : Instant) : Blind used past (start line now) := by
  have launches : Blind used past fun idle =>
      if line.supported then dial line now { idle with backoff := idle.backoff.reset }
      else moveTo .unsupported idle :=
    Blind.choose (fun idle => blind_dial line now { idle with backoff := idle.backoff.reset })
      (blind_move_to .unsupported) fun _ => Iff.rfl
  rintro ⟨config, state⟩
  cases state with
  | idle => exact launches _
  | stopped => exact (blind_move_to .idle).andThen launches _
  | connecting | connected | waiting | failed | unsupported => rfl

/-- A stop is blind: what it clears is cleared under all numbers alike. -/
theorem blind_stop : Blind used past stop := by
  refine blind_nothing.choose ?_ fun _ => Iff.rfl
  intro subscription
  exact blind_hang_up.andThen (blind_move_to .stopped) { subscription with
      reconnectAt := none, debounceAt := none, warningAt := none, lostAt := none
      window := subscription.window.clear }

/-- A poll is blind. None of its deadlines depends on how many connections there were before. -/
theorem blind_poll (line : Line) (now : Instant) : Blind used past (poll line now) := by
  have redials : Blind used past (pollReconnect line now) := by
    refine Blind.choose ?_ blind_nothing fun _ => Iff.rfl
    refine Blind.choose ?_ (blind_of_change (fun _ => rfl) fun _ => rfl) fun _ => Iff.rfl
    exact fun subscription => blind_dial line now { subscription with reconnectAt := none }
  have closes : Blind used past (pollWindow now) := by
    refine Blind.choose (blind_of_change (fun _ => rfl) ?_) blind_nothing fun _ => Iff.rfl
    intro subscription
    rw [List.map_map]
    rfl
  have warns : Blind used past (pollWarning now) := by
    refine Blind.choose (blind_of_change (fun _ => rfl) ?_) blind_nothing fun _ => Iff.rfl
    intro subscription
    rw [List.map_map]
    rfl
  exact (redials.andThen closes).andThen warns

end Blindness

/-- What stays of a new subscription in every run: its settings with the delays that they give, and
that no connection has the number zero. -/
structure Founded (config : StreamConfig) (subscription : Subscription) : Prop where
  settings : subscription.config = config
  initial : subscription.backoff.initial = config.initialBackoff
  maximum : subscription.backoff.maximum = config.maxBackoff
  next : 0 < subscription.nextConnection
  present : subscription.connection ≠ some 0

variable {config : StreamConfig} {subscription before after : Subscription}
    {effects : List StreamEffect}

/-- A new subscription is founded on its settings, which is where runs begin. -/
theorem create_founded (config : StreamConfig) : (create config).Founded config :=
  ⟨rfl, rfl, rfl, Nat.one_pos, nofun⟩

/-- A further attempt keeps to the settings: at most the failures are forgotten, under the same
limits. -/
theorem Founded.redial (founded : subscription.Founded config) :
    subscription.redial.Founded config := by
  obtain ⟨settings, initial, maximum, next, present⟩ := founded
  refine ⟨settings, ?_, ?_, Nat.succ_pos _, present⟩
  · show (if _ then _ else _ : Backoff).initial = _
    split <;> exact initial
  · show (if _ then _ else _ : Backoff).maximum = _
    split <;> exact maximum

/-- A loss keeps to the settings: it counts one more failure under the same limits. -/
theorem Founded.lose (founded : subscription.Founded config) (now : Instant) :
    (subscription.lose now).Founded config := by
  rw [lose_eq]
  exact { founded with present := nofun }

/-- A move keeps to the settings. The settings are never changed, so only moves that touch the count
of failures have to be looked at. -/
theorem Founded.move (founded : before.Founded config) (move : Move before effects after) :
    after.Founded config := by
  cases move with
  | wake | giveUp | openUp | stayOpen | hear | takeIn | report | warn => exact { founded with }
  | stop => exact { founded with present := nofun }
  | dial ready =>
    have numbered : before.nextConnection ≠ 0 := Nat.ne_zero_of_lt founded.next
    exact { founded.redial with present := by simpa using numbered }
  | beRefused now ready => exact founded.redial.lose now
  | fail now connection present => exact founded.lose now

/-- Any moves keep to the settings, hence so does every run. -/
theorem Founded.moves (founded : before.Founded config) (moves : Moves before effects after) :
    after.Founded config := by
  induction moves with
  | none subscription => exact founded
  | next move rest inductionHypothesis => exact inductionHypothesis (founded.move move)

section Renumbering

variable {used : Nat} {past : Option Instant}

/-- A signal is taken up under other numbers if it is taken up with its number counted from those
used up. -/
theorem receive_after (numbered : subscription.connection ≠ some 0) (now : Instant)
    (connection : Nat) (signal : StreamSignal) :
    (subscription.after used past).receive now connection signal =
      recount used past (subscription.receive now (connection - used) signal) := by
  have same : (subscription.after used past).connection = some connection ↔
      subscription.connection = some (connection - used) := by
    rw [Subscription.after]
    cases present : subscription.connection with
    | none => simp
    | some number =>
      have positive : number ≠ 0 := by
        rintro rfl
        exact numbered present
      simp only [Option.map_some, Option.some.injEq]
      omega
  unfold receive
  by_cases heeded : subscription.connection = some (connection - used)
  · rw [if_pos heeded, if_pos (same.mpr heeded)]
    cases signal with
    | opened => exact blind_mark_open now subscription
    | message name data => exact blind_take_message now name data subscription
    | failed reason => exact blind_fail now subscription
  · rw [if_neg heeded, if_neg (mt same.mp heeded)]
    rfl

/-- An input is taken up under other numbers like that input with its number counted from those used
up. -/
theorem take_after (numbered : subscription.connection ≠ some 0) (input : StreamInput) :
    (subscription.after used past).take input =
      recount used past (subscription.take (input.since used)) := by
  cases input with
  | start line now => exact blind_start line now subscription
  | stop => exact blind_stop subscription
  | poll line now => exact blind_poll line now subscription
  | signal now connection signal => exact receive_after numbered now connection signal

/-- Runs go the same way under other numbers: the calls and the signals bear other numbers, and all
else is the same.

Proof: by induction on the inputs, each of which is taken blindly. -/
theorem run_after (coherent : subscription.Coherent) (founded : subscription.Founded config)
    (inputs : List StreamInput) :
    (subscription.after used past).run inputs =
      recount used past (subscription.run (inputs.map (StreamInput.since used))) := by
  induction inputs generalizing subscription with
  | nil => rfl
  | cons input rest inductionHypothesis =>
    have moves := take_moves (input.since used) coherent
    have onward := inductionHypothesis (coherent.moves moves) (founded.moves moves)
    rw [List.map_cons, run, run, take_after founded.present]
    unfold Outcome.andThen recount
    dsimp only
    rw [onward, List.map_append]
    rfl

end Renumbering

/-- What a stop leaves, idle again for the next start, is a new subscription except for the numbers,
the last sign of life and the failures. -/
theorem Founded.clear_eq (founded : subscription.Founded config) :
    { subscription.clear with state := .idle } =
      { (create config).after (subscription.nextConnection - 1) subscription.lastHeartbeat with
        backoff := subscription.backoff } := by
  obtain ⟨rfl, initial, maximum, next, present⟩ := founded
  have numbers : 1 + (subscription.nextConnection - 1) = subscription.nextConnection := by omega
  unfold clear after create
  dsimp only
  rw [numbers]
  rfl

/-- The failures are forgotten by a start. So to start what was cleared is to start what is new, but
for the number of the next connection and the last sign of life. -/
theorem Founded.start_eq (founded : subscription.Founded config) {line : Line}
    (supported : line.supported = true) (now : Instant) :
    start line now { subscription.clear with state := .idle } =
      start line now
        ((create config).after (subscription.nextConnection - 1) subscription.lastHeartbeat) := by
  have forgotten : subscription.backoff.reset = (create config).backoff.reset := by
    rw [Backoff.reset, founded.initial, founded.maximum]
    rfl
  rw [founded.clear_eq, start_of_idle line now rfl, start_of_idle line now rfl, if_pos supported,
    if_pos supported]
  dsimp only
  rw [forgotten]
  rfl

/-- Whether the present connection gives a sign of life in the course of inputs. -/
def Hears : List StreamInput → Subscription → Prop
  | [], _ => False
  | .signal now connection signal :: rest, subscription =>
    (subscription.connection = some connection ∧ signal.IsSign) ∨
      Hears rest (subscription.receive now connection signal).state
  | input :: rest, subscription => Hears rest (subscription.take input).state

/-- A sign of life is not forgotten by any moves; at most a later one takes its place. -/
theorem Moves.keeps_heartbeat (moves : Moves before effects after)
    (heard : before.lastHeartbeat.isSome = true) : after.lastHeartbeat.isSome = true := by
  induction moves with
  | none subscription => exact heard
  | next move rest inductionHypothesis =>
    refine inductionHypothesis ?_
    cases move with
    | wake | giveUp | dial | takeIn | report | warn | stop => exact heard
    | beRefused | fail =>
      rw [lose_eq]
      exact heard
    | openUp | stayOpen | hear => rfl

/-- A sign of life of the present connection is noted with its time, whether the connection was
known to be open or not. -/
theorem receive_sign {connection : Nat} (present : subscription.connection = some connection)
    (now : Instant) {signal : StreamSignal} (sign : signal.IsSign) :
    (subscription.receive now connection signal).state.lastHeartbeat = some now := by
  unfold receive
  rw [if_pos present]
  cases signal with
  | opened => rw [mark_open_eq, confirm]
  | message name data =>
    have shown : (subscription.showAlive now).state.lastHeartbeat = some now := by
      unfold showAlive
      split <;> rfl
    show (subscription.takeMessage now name data).state.lastHeartbeat = _
    rw [take_message_eq]
    cases EventKind.ofName? name with
    | none => exact shown
    | some kind =>
      dsimp only
      rw [Outcome.state_andThen, takeIn]
      cases IssueEvent.ofPayload kind data with
      | error fault => exact shown
      | ok event => exact shown
  | failed reason => exact absurd sign id

/-- After a sign of life in a run the subscription has one, so what it had before the run does not
show any more. -/
theorem run_hears (inputs : List StreamInput) (coherent : subscription.Coherent)
    (hears : Hears inputs subscription) :
    (subscription.run inputs).state.lastHeartbeat.isSome = true := by
  induction inputs generalizing subscription with
  | nil => exact hears.elim
  | cons input rest inductionHypothesis =>
    have between := coherent.moves (take_moves input coherent)
    rw [run, Outcome.state_andThen]
    cases input with
    | start | stop | poll => exact inductionHypothesis between hears
    | signal now connection signal =>
      obtain ⟨present, sign⟩ | later := hears
      · refine (run_moves rest between).keeps_heartbeat ?_
        rw [take, receive_sign present now sign]
        rfl
      · exact inductionHypothesis between later

/-- A start after a stop. The effects of what follows are those of a new subscription after a report
that the subscription is idle. -/
theorem Founded.run_restart (founded : subscription.Founded config)
    (stoppable : subscription.state ≠ .unsupported) (line : Line) (now : Instant)
    (inputs : List StreamInput) :
    let used := subscription.nextConnection - 1
    let new := (create config).run (.start line now :: inputs.map (StreamInput.since used))
    let again := subscription.stop.state.run (.start line now :: inputs)
    again.effects = .report (.stateChanged .idle) :: new.effects.map (StreamEffect.after used) ∧
      again.state = { new.state.after used subscription.lastHeartbeat with
        backoff := again.state.backoff } ∧
      (line.supported = true → again.state.backoff = new.state.backoff) := by
  intro used new again
  let idle : Subscription := { subscription.clear with state := .idle }
  have woken : again = (Outcome.mk idle [.report (.stateChanged .idle)]).andThen
      (run (.start line now :: inputs)) := by
    have stopped : subscription.clear.state = .stopped := rfl
    simp only [again, run, take]
    rw [stop_eq stoppable, start_of_stopped line now stopped, Outcome.andThen_assoc]
  cases supported : line.supported with
  | true =>
    have follows :
        idle.run (.start line now :: inputs) = recount used subscription.lastHeartbeat new := by
      rw [run, take, founded.start_eq supported now]
      exact run_after (create_coherent config) (create_founded config) (.start line now :: inputs)
    rw [woken, Outcome.andThen, follows]
    exact ⟨rfl, rfl, fun _ => rfl⟩
  | false =>
    have gives :
        ∀ (begun : Subscription) (rest : List StreamInput), begun.Coherent → begun.state = .idle →
        begun.run (.start line now :: rest) =
          ⟨{ begun with state := .unsupported }, [.report (.stateChanged .unsupported)]⟩ := by
      intro begun rest coherent quiet
      have begins : begun.take (.start line now) =
          ⟨{ begun with state := .unsupported }, [.report (.stateChanged .unsupported)]⟩ := by
        rw [take, start_of_idle line now quiet, supported, if_neg Bool.false_ne_true, moveTo,
          if_neg (by simp [quiet])]
      have after := coherent.moves (take_moves (.start line now) coherent)
      rw [begins] at after
      rw [run, begins, Outcome.andThen, run_unsupported rest after rfl]
      rfl
    have resting : idle.Coherent := Resting.coherent ⟨rfl, rfl, rfl, rfl, rfl, rfl⟩ rfl
    have fresh : new = _ := gives _ _ (create_coherent config) rfl
    rw [woken, Outcome.andThen, gives idle inputs resting rfl, fresh]
    refine ⟨rfl, ?_, fun able => absurd able Bool.false_ne_true⟩
    exact congrArg
      (fun woken : Subscription => { woken with state := .unsupported }) founded.clear_eq

/-- A subscription that was stopped after any run, unless its host cannot connect, starts again like
a new one. Whatever is done with both from then on, it first reports that it is idle, and then has
the same effects and deadlines as the new one and agrees with it in all fields. Only the numbers of
connections go on from those that were used up, in calls as in signals, and signals of the
connections before the stop are signals of none. The last sign of life is that of the time before
the stop until the present connection gives one. Where the host cannot connect, the failures are not
counted from zero, but they are not used any more either.

Proof: the stop and the start leave a new subscription under other numbers, and all operations are
blind to these. -/
theorem restart_leaves_no_residue (config : StreamConfig) (history : List StreamInput) (line : Line)
    (now : Instant) (inputs : List StreamInput)
    (stoppable : ((create config).run history).state.state ≠ .unsupported) :
    let left := ((create config).run history).state
    let used := left.nextConnection - 1
    let new := (create config).run (.start line now :: inputs.map (StreamInput.since used))
    let again := left.stop.state.run (.start line now :: inputs)
    again.effects = .report (.stateChanged .idle) :: new.effects.map (StreamEffect.after used) ∧
      again.state.nextDeadline = new.state.nextDeadline ∧
      again.state =
        { new.state.after used left.lastHeartbeat with backoff := again.state.backoff } ∧
      (line.supported = true → again.state.backoff = new.state.backoff) ∧
      (Hears (.start line now :: inputs.map (StreamInput.since used)) (create config) →
        again.state.lastHeartbeat = new.state.lastHeartbeat) := by
  intro left used new again
  have founded : left.Founded config :=
    (create_founded config).moves (run_moves history (create_coherent config))
  obtain ⟨effects, state, backoff⟩ := founded.run_restart stoppable line now inputs
  refine ⟨effects, ?_, state, backoff, ?_⟩
  · exact (congrArg nextDeadline state).trans rfl
  · intro hears
    obtain ⟨heard, there⟩ :=
      Option.isSome_iff_exists.mp (run_hears _ (create_coherent config) hears)
    have same : again.state.lastHeartbeat = new.state.lastHeartbeat.or left.lastHeartbeat :=
      congrArg lastHeartbeat state
    rw [same, there]
    rfl

/-- A connection that is open, reports an event and fails. -/
def eventAndLoss : List StreamInput :=
  [.start {} .epoch, .signal .epoch 1 .opened,
    .signal .epoch 1 (.message "created"
      "\x7b\"issue\":\x7b\"id\":\"bd-1\",\"title\":\"\",\"status\":\"open\"\x7d\x7d"),
    .signal .epoch 1 (.failed "reset")]

/-- The connection after the stop, with an echo of the one before it. -/
def echoAndLoss : List StreamInput :=
  [.signal (.sinceEpoch 500) 1 .opened, .signal (.sinceEpoch 500) 2 .opened,
    .signal (.sinceEpoch 600) 2 (.failed "reset"), .poll {} (.sinceEpoch 1600)]

/-- The subscription goes on as a new one does that gets no echo: the failure counts as the first
one, and the event from before the stop is not reported. -/
theorem second_start_counts_anew :
    let left := ((create {}).run eventAndLoss).state
    let again := left.stop.state.run (.start {} (.sinceEpoch 500) :: echoAndLoss)
    left.state = .waiting ∧ left.retryAttempt = 1 ∧ left.pendingSize = 1 ∧
      StreamEffect.calls again.effects =
        [.dial 2 "http://127.0.0.1:3030/events" true, .hangUp 2,
          .dial 3 "http://127.0.0.1:3030/events" true] ∧
      again.state.retryAttempt = 1 ∧ again.state.pendingSize = 0 ∧
      again.state.lastHeartbeat = some (.sinceEpoch 500) := by
  intro left again
  let used := left.nextConnection - 1
  let new := (create {}).run
    (.start {} (.sinceEpoch 500) :: echoAndLoss.map (StreamInput.since used))
  have before : left.state = .waiting ∧ left.retryAttempt = 1 ∧ left.pendingSize = 1 := by
    decide +kernel
  have anew : StreamEffect.calls (new.effects.map (StreamEffect.after used)) =
        [.dial 2 "http://127.0.0.1:3030/events" true, .hangUp 2,
          .dial 3 "http://127.0.0.1:3030/events" true] ∧
      new.state.retryAttempt = 1 ∧ new.state.pendingSize = 0 ∧
      new.state.lastHeartbeat.or left.lastHeartbeat = some (.sinceEpoch 500) := by
    decide +kernel
  obtain ⟨waiting, failures, pending⟩ := before
  obtain ⟨newCalls, newFailures, newPending, newHeartbeat⟩ := anew
  obtain ⟨effects, -, state, backoff, -⟩ := restart_leaves_no_residue {} eventAndLoss {}
    (.sinceEpoch 500) echoAndLoss (by rw [waiting]; exact StreamState.noConfusion)
  have calls : StreamEffect.calls again.effects =
      StreamEffect.calls (new.effects.map (StreamEffect.after used)) :=
    (congrArg StreamEffect.calls effects).trans (StreamEffect.calls_report _ _)
  have same : again.state.backoff = new.state.backoff := by
    simp only [again, new, used, left]
    exact backoff rfl
  have attempts : again.state.retryAttempt = new.state.retryAttempt := congrArg Backoff.attempt same
  have size : again.state.pendingSize = new.state.pendingSize := by
    simp only [again, new, used, left]
    rw [state]
    rfl
  have heartbeat : again.state.lastHeartbeat = new.state.lastHeartbeat.or left.lastHeartbeat := by
    simp only [again, new, used, left]
    rw [state]
    rfl
  exact ⟨waiting, failures, pending, calls.trans newCalls, attempts.trans newFailures,
    size.trans newPending, heartbeat.trans newHeartbeat⟩

end Subscription

end LiveTabs

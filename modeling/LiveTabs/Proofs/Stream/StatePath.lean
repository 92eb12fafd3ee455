import Mathlib.Data.List.Chain
import LiveTabs.Proofs.Stream.Activity
import LiveTabs.Proofs.Stream.Reports

/-!
# The diagram of states

The states that a subscription reports follow the diagram that is drawn where subscriptions are
defined. `StreamState.followers` is that diagram as a table: from every state it lists those that
may be reported next. A move reports a path of the diagram that begins in the state before it and
ends in the state after it, so the reports of a whole run are one path from `idle`. From
`unsupported` the diagram leads nowhere, and there a subscription does nothing any more.
-/

namespace LiveTabs

namespace StreamState

/-- The states that may follow a state. -/
def followers : StreamState → List StreamState
  | .idle => [.connecting, .unsupported, .stopped]
  | .connecting => [.connected, .failed, .stopped]
  | .connected => [.failed, .stopped]
  | .failed => [.waiting]
  | .waiting => [.connecting, .stopped]
  | .stopped => [.idle]
  | .unsupported => []

/-- Whether the second state may follow the first. -/
def LeadsTo (state next : StreamState) : Prop := next ∈ state.followers

/-- The diagram can be looked up. -/
instance (state next : StreamState) : Decidable (state.LeadsTo next) :=
  inferInstanceAs (Decidable (next ∈ state.followers))

/-- No state follows itself, so a state is reported only where it changes. -/
theorem LeadsTo.ne {state next : StreamState} (leads : state.LeadsTo next) : state ≠ next := by
  rintro rfl
  cases state <;> exact absurd leads (by decide)

/-- States that follow each other. -/
abbrev IsPath (states : List StreamState) : Prop := List.IsChain LeadsTo states

/-- A path may go on from where another one ends. Paths of single operations are put together to
those of runs by this. -/
theorem IsPath.append {start middle : StreamState} {first second : List StreamState}
    (earlier : IsPath (start :: first)) (ends : first.getLast?.getD start = middle)
    (later : IsPath (middle :: second)) : IsPath (start :: (first ++ second)) := by
  rw [← List.cons_append, IsPath, List.isChain_append]
  refine ⟨earlier, later.tail, ?_⟩
  intro last isLast next isNext
  rw [List.getLast?_cons, ends, Option.mem_some_iff] at isLast
  cases second with
  | nil => cases isNext
  | cons head rest =>
    rw [List.head?_cons, Option.mem_some_iff] at isNext
    rw [← isLast, ← isNext]
    exact (List.isChain_cons_cons.mp later).1

/-- A path ends where nothing follows, so a state without followers is the last one. -/
theorem IsPath.getLast_of_mem {states : List StreamState} {state : StreamState}
    (path : IsPath states) (there : state ∈ states) (final : state.followers = []) :
    states.getLast? = some state := by
  obtain ⟨before, after, rfl⟩ := List.append_of_mem there
  cases after with
  | nil => exact List.getLast?_concat
  | cons next rest =>
    have leads := (List.isChain_cons_cons.mp (List.isChain_append.mp path).2.1).1
    rw [LeadsTo, final] at leads
    cases leads

end StreamState

namespace StreamInput

/-- Whether an input is a poll or a signal, which begin and end nothing. -/
def IsPassive : StreamInput → Prop
  | .start _ _ | .stop => False
  | .poll _ _ | .signal _ _ _ => True

end StreamInput

namespace Subscription

open StreamEffect (states)
open StreamState (IsPath)

variable {subscription before after : Subscription} {effects : List StreamEffect}

/-- A move reports a path of the diagram, which begins at the state before it. -/
theorem Move.path (coherent : before.Coherent) (move : Move before effects after) :
    IsPath (before.state :: states effects) := by
  cases move with
  | wake stopped =>
    rw [stopped]
    decide
  | giveUp idle =>
    rw [idle]
    decide
  | dial ready =>
    show IsPath [before.state, .connecting]
    obtain idle | waiting := ready
    · rw [idle]
      decide
    · rw [waiting]
      decide
  | beRefused now ready =>
    show IsPath [before.state, .connecting, .failed, .waiting]
    obtain idle | waiting := ready
    · rw [idle]
      decide
    · rw [waiting]
      decide
  | fail now connection present =>
    show IsPath [before.state, .failed, .waiting]
    obtain connecting | connected := coherent.connection.mp (by rw [present]; rfl)
    · rw [connecting]
      decide
    · rw [connected]
      decide
  | openUp now connecting =>
    rw [connecting]
    decide
  | takeIn now event connected =>
    have silent : states (eventReports event) = [] := by
      cases kind : event.kind <;> simp [eventReports, kind, states]
    rw [silent]
    exact List.isChain_singleton _
  | stop running supported =>
    have stops : states (before.connection.toList.map
        (fun connection => .call (.hangUp connection)) ++ [.report (.stateChanged .stopped)]) =
          [.stopped] := by
      cases before.connection <;> rfl
    have settled := coherent.settled
    rw [stops]
    cases state : before.state with
    | idle | connecting | connected | waiting => decide
    | failed => exact absurd state settled
    | stopped => exact absurd state running
    | unsupported => exact absurd state supported
  | stayOpen | hear | report | warn => exact List.isChain_singleton _

/-- Any moves report a path of the diagram, because each begins at the state in which the one before
it ended. -/
theorem Moves.path (coherent : before.Coherent) (moves : Moves before effects after) :
    IsPath (before.state :: states effects) := by
  induction moves with
  | none subscription => exact List.isChain_singleton _
  | next move rest inductionHypothesis =>
    rw [StreamEffect.states_append]
    exact (move.path coherent).append move.last_state (inductionHypothesis (coherent.move move))

/-- A subscription whose host cannot connect stays so: the diagram leads nowhere from there. -/
theorem Moves.stays_unsupported (coherent : before.Coherent) (moves : Moves before effects after)
    (unsupported : before.state = .unsupported) : after.state = .unsupported := by
  have path := moves.path coherent
  have last := moves.last_state
  rw [unsupported] at path last
  cases reported : states effects with
  | nil =>
    rw [← last, reported]
    rfl
  | cons first rest =>
    rw [reported] at path
    exact absurd (List.isChain_cons_cons.mp path).1 List.not_mem_nil

/-- Whether a subscription is idle after an input: only if it was, and the input neither starts nor
stops it. -/
theorem take_idle (input : StreamInput) (coherent : subscription.Coherent)
    (idle : (subscription.take input).state.state = .idle) :
    subscription.state = .idle ∧ input.IsPassive := by
  have inactive : (subscription.take input).state.state.isActive = false := by rw [idle]; rfl
  cases input with
  | start line now =>
    obtain active | unsupported := start_active line now coherent
    · rw [take, active] at inactive
      cases inactive
    · rw [take, unsupported] at idle
      cases idle
  | stop =>
    by_cases unsupported : subscription.state = .unsupported
    · rw [take, stop, if_pos unsupported, unsupported] at idle
      cases idle
    · rw [take, stop_eq unsupported] at idle
      cases idle
  | poll line now =>
    refine ⟨?_, trivial⟩
    cases active : subscription.state.isActive with
    | true =>
      rw [take, poll_active line now coherent active] at inactive
      cases inactive
    | false =>
      rwa [take, (coherent.resting active).poll_eq line now] at idle
  | signal now connection signal =>
    refine ⟨?_, trivial⟩
    cases active : subscription.state.isActive with
    | true =>
      rw [take, receive_active now connection signal coherent active] at inactive
      cases inactive
    | false =>
      rwa [take, (coherent.resting active).receive_eq now connection signal] at idle

/-- A subscription that is idle after a run was idle before, and was neither started nor stopped. -/
theorem run_idle (inputs : List StreamInput) (coherent : subscription.Coherent)
    (idle : (subscription.run inputs).state.state = .idle) :
    subscription.state = .idle ∧ ∀ input ∈ inputs, input.IsPassive := by
  induction inputs generalizing subscription with
  | nil => exact ⟨idle, List.forall_mem_nil _⟩
  | cons input rest inductionHypothesis =>
    have between := coherent.moves (take_moves input coherent)
    obtain ⟨taken, passive⟩ := inductionHypothesis between idle
    obtain ⟨before, first⟩ := take_idle input coherent taken
    exact ⟨before, List.forall_mem_cons.mpr ⟨first, passive⟩⟩

/-- Where the host cannot connect, a subscription does nothing and waits for nothing. -/
theorem run_unsupported (inputs : List StreamInput) (coherent : subscription.Coherent)
    (unsupported : subscription.state = .unsupported) :
    subscription.run inputs = ⟨subscription, []⟩ := by
  have resting := coherent.resting (by rw [unsupported]; rfl)
  have idles : ∀ input, subscription.take input = ⟨subscription, []⟩ := by
    intro input
    cases input with
    | start line now => exact start_ignored line now (by simp [unsupported]) (by simp [unsupported])
    | stop => exact if_pos unsupported
    | poll line now => exact resting.poll_eq line now
    | signal now connection signal => exact resting.receive_eq now connection signal
  induction inputs with
  | nil => rfl
  | cons input rest inductionHypothesis =>
    rw [run, idles, Outcome.andThen, inductionHypothesis]
    rfl

/-- What the reported states of a run have to do with the diagram and with the state after it. -/
structure Charted (inputs : List StreamInput) (outcome : Result) : Prop where
  /-- Every state may follow the one before it. -/
  path : IsPath (.idle :: states outcome.effects)
  /-- No state is reported twice in a row. -/
  changing : List.IsChain (· ≠ ·) (.idle :: states outcome.effects)
  /-- The last state is the present one. -/
  present : (.idle :: states outcome.effects).getLast? = some outcome.state.state
  /-- A failure is left in the operation in which it happens. -/
  settled : outcome.state.state ≠ .failed
  /-- A subscription is idle only until it is started or stopped. -/
  unused : outcome.state.state = .idle → ∀ input ∈ inputs, input.IsPassive

/-- The state after a run stands at the end of the states that were reported, or is the idle one if
none was. -/
theorem run_present (config : StreamConfig) (inputs : List StreamInput) :
    (.idle :: states ((create config).run inputs).effects).getLast? =
      some ((create config).run inputs).state.state := by
  rw [List.getLast?_cons]
  exact congrArg some (run_moves inputs (create_coherent config)).last_state

/-- The states that a subscription reports are a path of the diagram from `idle` to its state, in
every run. It is never left in the state of failure, and it is idle only until it is first started
or stopped. Once it has reported that the host cannot connect, whatever is done with it later has no
effect and changes nothing, and there is nothing to wait for.

Proof: every move reports a path from the state before it to the state after it, and the paths of
the moves are joined. Nothing follows `unsupported`, so where it was reported it is the state; and a
subscription in that state is at rest. -/
theorem states_follow_diagram (config : StreamConfig) :
    (∀ inputs, Charted inputs ((create config).run inputs)) ∧
    ∀ earlier later, .unsupported ∈ states ((create config).run earlier).effects →
      (create config).run (earlier ++ later) = (create config).run earlier ∧
      ((create config).run earlier).state.nextDeadline = none := by
  have paths : ∀ inputs, IsPath (.idle :: states ((create config).run inputs).effects) :=
    fun inputs => (run_moves inputs (create_coherent config)).path (create_coherent config)
  have coherents : ∀ inputs, ((create config).run inputs).state.Coherent :=
    fun inputs => (create_coherent config).moves (run_moves inputs (create_coherent config))
  constructor
  · intro inputs
    exact ⟨paths inputs, (paths inputs).imp fun _ _ leads => leads.ne, run_present config inputs,
      (coherents inputs).settled,
      fun idle => (run_idle inputs (create_coherent config) idle).2⟩
  · intro earlier later reported
    have last := (paths earlier).getLast_of_mem (List.mem_cons_of_mem _ reported) rfl
    have unsupported := Option.some.inj ((run_present config earlier).symm.trans last)
    have resting := (coherents earlier).resting (by rw [unsupported]; rfl)
    constructor
    · rw [run_append, Outcome.andThen, run_unsupported later (coherents earlier) unsupported,
        List.append_nil]
    · rw [nextDeadline, resting.reconnectAt, resting.debounceAt, resting.warningAt]
      rfl

/-- A connection that is opened and fails, after which the subscription is stopped and the host has
no network when it is started again. -/
def lossOfNetwork : List StreamInput :=
  [.start {} .epoch, .signal .epoch 1 .opened, .signal .epoch 1 (.failed "reset"), .stop,
    .start { supported := false } .epoch]

/-- The subscription of a host that lost its network goes through the diagram, and stays as it is
even when the network is back. -/
theorem nothing_after_loss_of_network :
    states ((create {}).run lossOfNetwork).effects =
        [.connecting, .connected, .failed, .waiting, .stopped, .idle, .unsupported] ∧
      (create {}).run (lossOfNetwork ++ [.start {} .epoch, .poll {} .last]) =
        (create {}).run lossOfNetwork ∧
      ((create {}).run lossOfNetwork).state.nextDeadline = none := by
  have reported : states ((create {}).run lossOfNetwork).effects =
      [.connecting, .connected, .failed, .waiting, .stopped, .idle, .unsupported] := by
    decide +kernel
  exact ⟨reported, (states_follow_diagram {}).2 lossOfNetwork _ (by rw [reported]; decide)⟩

end Subscription

end LiveTabs

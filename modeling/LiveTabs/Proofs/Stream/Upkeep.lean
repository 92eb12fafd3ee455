import LiveTabs.Proofs.Stream.Connections

/-!
# How a subscription goes on

While it is active a subscription has a connection, or it has a time for the next attempt, and the
first poll at that time or later makes the attempt (`GoesOn`). At rest it has neither a connection
nor anything that is due at any time. `fields_agree_with_state` says so after every run, with all
the fields that agree with the state.
-/

namespace LiveTabs

namespace Subscription

/-- After some calls a subscription has a connection, which is the one that is open, or it makes the
next attempt as soon as it is polled at a time that is set or later. -/
def GoesOn (calls : List NetworkCall) (subscription : Subscription) : Prop :=
  (∃ connection, subscription.connection = some connection ∧
      NetworkCall.unclosed calls = [connection]) ∨
    ∃ deadline, subscription.reconnectAt = some deadline ∧ ∀ line now, deadline ≤ now →
      .dial subscription.nextConnection subscription.config.url line.accepting ∈
        StreamEffect.calls (subscription.poll line now).effects

variable {calls : List NetworkCall} {subscription : Subscription}

/-- A subscription at rest has nothing to do at any time, so nobody has to wake it up. -/
theorem Resting.next_deadline (resting : subscription.Resting) :
    subscription.nextDeadline = none := by
  rw [nextDeadline, resting.reconnectAt, resting.debounceAt, resting.warningAt]
  rfl

/-- A dial is among the calls that it makes, whether or not it is taken up, and it has the next
number. -/
theorem dial_calls (line : Line) (now : Instant) (disconnected : subscription.connection = none)
    (ready : subscription.state ≠ .connecting) :
    .dial subscription.nextConnection subscription.config.url line.accepting ∈
      StreamEffect.calls (subscription.dial line now).effects := by
  rw [dial_eq line now disconnected ready]
  cases line.accepting <;> simp [dialEffects]

/-- An attempt that is set is made by every poll at its time or later, so a late poll does not miss
it. -/
theorem Coherent.poll_dials (coherent : subscription.Coherent) {deadline now : Instant}
    (set : subscription.reconnectAt = some deadline) (passed : deadline ≤ now) (line : Line) :
    .dial subscription.nextConnection subscription.config.url line.accepting ∈
      StreamEffect.calls (subscription.poll line now).effects := by
  have due : Instant.isDue subscription.reconnectAt now = true :=
    (Instant.is_due_iff _ _).mpr ⟨deadline, set, passed⟩
  have waiting : subscription.state = .waiting := coherent.retry.mp (by rw [set]; rfl)
  let cleared : Subscription := { subscription with reconnectAt := none }
  have redials : subscription.pollReconnect line now = cleared.dial line now := by
    rw [pollReconnect, if_pos due, if_pos waiting]
  have disconnected : cleared.connection = none := coherent.disconnected (.inr waiting)
  have ready : cleared.state ≠ .connecting := by simp [cleared, waiting]
  have dials := dial_calls line now disconnected ready
  rw [poll, Outcome.effects_andThen, Outcome.effects_andThen, redials, StreamEffect.calls_append,
    StreamEffect.calls_append]
  exact List.mem_append_left _ (List.mem_append_left _ dials)

/-- An active subscription goes on: one that waits dials in time, and any other has a connection,
which is open because the calls are in turn. -/
theorem Coherent.goes_on (coherent : subscription.Coherent) (orderly : Orderly calls subscription)
    (active : subscription.state.isActive = true) : subscription.GoesOn calls := by
  have connected : subscription.connection.isSome = true → subscription.GoesOn calls := by
    intro present
    obtain ⟨connection, there⟩ := Option.isSome_iff_exists.mp present
    have unclosed := orderly.inTurn.present
    rw [there] at unclosed
    exact .inl ⟨connection, there, unclosed⟩
  cases state : subscription.state with
  | connecting => exact connected (coherent.connection.mpr (.inl state))
  | connected => exact connected (coherent.connection.mpr (.inr state))
  | waiting =>
    obtain ⟨deadline, set⟩ := Option.isSome_iff_exists.mp (coherent.retry.mpr state)
    exact .inr ⟨deadline, set, fun line now passed => coherent.poll_dials set passed line⟩
  | failed => exact absurd state coherent.settled
  | idle | stopped | unsupported =>
    rw [state] at active
    cases active

/-- After every run the fields of a subscription agree with its state. While it is not active no
connection is open, nothing is left in its window, and it waits for nothing. While it is active it
goes on.

Proof: moves keep the fields in agreement with the state and the calls in turn, and every run comes
to moves. -/
theorem fields_agree_with_state (config : StreamConfig) (inputs : List StreamInput) :
    let outcome := (create config).run inputs
    let calls := StreamEffect.calls outcome.effects
    outcome.state.Coherent ∧
      (outcome.state.state.isActive = false →
        outcome.state.Resting ∧ outcome.state.nextDeadline = none ∧
          outcome.state.pendingSize = 0 ∧ NetworkCall.unclosed calls = []) ∧
      (outcome.state.state.isActive = true → outcome.state.GoesOn calls) := by
  intro outcome calls
  have coherent : outcome.state.Coherent :=
    (create_coherent config).moves (run_moves inputs (create_coherent config))
  have orderly : Orderly calls outcome.state := run_orderly config inputs
  refine ⟨coherent, ?_, coherent.goes_on orderly⟩
  intro inactive
  have resting := coherent.resting inactive
  have unclosed := orderly.inTurn.present
  rw [resting.disconnected] at unclosed
  refine ⟨resting, resting.next_deadline, ?_, unclosed⟩
  rw [pendingSize, resting.window]
  rfl

/-- A subscription whose first attempt is refused. -/
def refusedStart : List StreamInput := [.start { accepting := false } .epoch]

/-- A refused subscription dials again after a second, which is the first delay. -/
theorem dials_after_refusal :
    let refused := ((create {}).run refusedStart).state
    refused.state = .waiting ∧
      .dial 2 "http://127.0.0.1:3030/events" true ∈
        StreamEffect.calls (refused.poll {} (.sinceEpoch 1000)).effects := by
  obtain ⟨-, -, active⟩ := fields_agree_with_state {} refusedStart
  refine ⟨rfl, ?_⟩
  obtain ⟨connection, there, -⟩ | ⟨deadline, set, dials⟩ := active rfl
  · cases there
  · cases set
    exact dials {} (.sinceEpoch 1000) (by decide)

end Subscription

end LiveTabs

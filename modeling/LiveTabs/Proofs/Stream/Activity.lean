import LiveTabs.Proofs.Stream.Moves

/-!
# Subscriptions at work and at rest

A subscription works from a start to a stop: whatever it does of itself, it goes on with a
connection or with a new attempt to get one. Before the first start and after a stop it is at rest,
and neither the clock nor a signal of an old connection makes it do anything. Where the host cannot
connect, it never works.
-/

namespace LiveTabs

namespace Subscription

variable {subscription : Subscription}

/-- A subscription at rest has nothing to do in a poll, at whatever time: it stays as it is and has
no effects. -/
theorem Resting.poll_eq (resting : subscription.Resting) (line : Line) (now : Instant) :
    subscription.poll line now = ⟨subscription, []⟩ := by
  simp [poll, pollReconnect, pollWindow, pollWarning, resting.reconnectAt, resting.debounceAt,
    resting.warningAt, Instant.isDue, Outcome.andThen]

/-- A subscription at rest heeds no signal, because every signal belongs to a connection and it has
none. -/
theorem Resting.receive_eq (resting : subscription.Resting) (now : Instant) (connection : Nat)
    (signal : StreamSignal) :
    subscription.receive now connection signal = ⟨subscription, []⟩ := by
  unfold receive
  rw [resting.disconnected, if_neg nofun]

/-- A stopped subscription does not work, in whatever state it was stopped. -/
theorem stop_inactive (subscription : Subscription) :
    subscription.stop.state.state.isActive = false := by
  by_cases unsupported : subscription.state = .unsupported
  · rw [stop, if_pos unsupported, unsupported]
    rfl
  · rw [stop_eq unsupported]
    rfl

/-- A stop does not find out that the host cannot connect: a subscription that knows it afterwards
knew it before. -/
theorem unsupported_of_stop (unsupported : subscription.stop.state.state = .unsupported) :
    subscription.state = .unsupported := by
  by_cases before : subscription.state = .unsupported
  · exact before
  · rw [stop_eq before] at unsupported
    cases unsupported

/-- Dialling leaves a subscription at work, whether or not it is taken up. -/
theorem dial_active (line : Line) (now : Instant) (disconnected : subscription.connection = none)
    (ready : subscription.state ≠ .connecting) :
    (subscription.dial line now).state.state.isActive = true := by
  rw [dial_eq line now disconnected ready]
  cases line.accepting <;> rfl

/-- After a start an idle subscription works, unless the host cannot connect, which is only found
out here. -/
theorem start_active_of_idle (line : Line) (now : Instant)
    (disconnected : subscription.connection = none) (idle : subscription.state = .idle) :
    (subscription.start line now).state.state.isActive = true ∨
      (subscription.start line now).state.state = .unsupported := by
  rw [start_of_idle line now idle]
  cases line.supported with
  | false =>
    right
    rw [if_neg Bool.false_ne_true, moveTo, if_neg (by simp [idle])]
  | true =>
    left
    have ready : subscription.state ≠ .connecting := by
      rw [idle]
      exact StreamState.noConfusion
    exact dial_active line now disconnected ready

/-- After a start a subscription works, unless the host cannot connect. It may have been idle,
stopped or at work before. -/
theorem start_active (line : Line) (now : Instant) (coherent : subscription.Coherent) :
    (subscription.start line now).state.state.isActive = true ∨
      (subscription.start line now).state.state = .unsupported := by
  cases state : subscription.state with
  | idle =>
    have resting := coherent.resting (by rw [state]; rfl)
    exact start_active_of_idle line now resting.disconnected state
  | stopped =>
    have resting := coherent.resting (by rw [state]; rfl)
    rw [start_of_stopped line now state]
    exact start_active_of_idle line now resting.disconnected rfl
  | connecting | connected | waiting | failed | unsupported =>
    rw [start_ignored line now (by simp [state]) (by simp [state])]
    simp [state, StreamState.isActive]

/-- A signal leaves a subscription at work: a failure makes it wait for the next attempt, which is
work too. -/
theorem receive_active (now : Instant) (connection : Nat) (signal : StreamSignal)
    (coherent : subscription.Coherent) (active : subscription.state.isActive = true) :
    (subscription.receive now connection signal).state.state.isActive = true := by
  unfold receive
  by_cases present : subscription.connection = some connection
  · have dialled := coherent.connection.mp (by rw [present]; rfl)
    rw [if_pos present]
    cases signal with
    | opened =>
      rw [mark_open_eq]
      rfl
    | message name data =>
      rw [(take_message_moves now name data dialled).2]
      rfl
    | failed reason =>
      rw [fail_eq now dialled]
      rfl
  · rw [if_neg present]
    exact active

/-- A poll leaves a subscription at work, since it gives up no attempt without setting the next
one. -/
theorem poll_active (line : Line) (now : Instant) (coherent : subscription.Coherent)
    (active : subscription.state.isActive = true) :
    (subscription.poll line now).state.state.isActive = true := by
  have window : ∀ subscription : Subscription,
      (subscription.pollWindow now).state.state = subscription.state := by
    intro subscription
    unfold pollWindow
    split <;> rfl
  have warning : ∀ subscription : Subscription,
      (subscription.pollWarning now).state.state = subscription.state := by
    intro subscription
    unfold pollWarning
    split <;> rfl
  rw [poll, Outcome.state_andThen, Outcome.state_andThen, warning, window]
  unfold pollReconnect
  by_cases due : Instant.isDue subscription.reconnectAt now = true
  · have waiting := coherent.retry.mp (Instant.isSome_of_is_due due)
    have disconnected := coherent.disconnected (.inr waiting)
    rw [if_pos due, if_pos waiting]
    exact dial_active line now disconnected (by simp [waiting])
  · rw [if_neg due]
    exact active

end Subscription

end LiveTabs

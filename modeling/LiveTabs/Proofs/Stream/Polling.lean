import LiveTabs.Proofs.Stream.Moves

/-!
# Polls of a subscription

A poll that comes before the deadlines of a subscription does nothing. After a poll none of them has
passed: the window and the warning are simply done with, and an attempt that is refused is made
again after a delay, which is not zero while the settings are valid. A warning without any delay may
be set by the same poll that gives it, because warnings come last.
-/

namespace LiveTabs

/-- Valid settings have positive delays between attempts: the first one is checked to be, and the
longest one is not shorter. -/
theorem StreamConfig.delays_of_valid {config : StreamConfig} (valid : config.fault? = none) :
    0 < config.initialBackoff.nanoseconds ∧ 0 < config.maxBackoff.nanoseconds := by
  unfold fault? at valid
  split at valid
  · cases valid
  split at valid
  · cases valid
  rename_i nonzero
  split at valid
  · cases valid
  rename_i grows
  have positive : 0 < config.initialBackoff.nanoseconds := by
    apply Nat.pos_of_ne_zero
    intro none
    exact nonzero (congrArg Duration.mk none)
  exact ⟨positive, Nat.lt_of_lt_of_le positive (Nat.not_lt.mp grows)⟩

/-- A delay is positive if the first and the longest one are, because it is the first one multiplied
by a power of two or the longest one. -/
theorem Backoff.delay_pos {backoff : Backoff} (initial : 0 < backoff.initial.nanoseconds)
    (maximum : 0 < backoff.maximum.nanoseconds) : 0 < backoff.delay.nanoseconds := by
  unfold delay delayFor
  split
  · have doubled : 0 < (backoff.initial.scale (Nat.pow 2 backoff.attempt)).nanoseconds :=
      Nat.mul_pos initial (Nat.pow_pos Nat.two_pos)
    dsimp only
    split
    · unfold Duration.min
      split
      · exact doubled
      · exact maximum
    · exact maximum
  · exact maximum

namespace Subscription

variable {subscription before after : Subscription} {line : Line} {now : Instant}
  {effects : List StreamEffect}

/-- A subscription with valid settings, and with the delays that these give. -/
structure Configured (subscription : Subscription) : Prop where
  valid : subscription.config.fault? = none
  initial : subscription.backoff.initial = subscription.config.initialBackoff
  maximum : subscription.backoff.maximum = subscription.config.maxBackoff

/-- A new subscription has the delays of its settings, which are valid. -/
theorem configured_of_create {config : StreamConfig} (valid : config.fault? = none) :
    (create config).Configured :=
  ⟨valid, rfl, rfl⟩

/-- The delay before the next attempt is positive, so an attempt that is set at an instant is not
due at that instant. -/
theorem Configured.delay_pos (configured : subscription.Configured) :
    0 < subscription.backoff.delay.nanoseconds := by
  obtain ⟨initial, maximum⟩ := StreamConfig.delays_of_valid configured.valid
  apply Backoff.delay_pos
  · rwa [configured.initial]
  · rwa [configured.maximum]

/-- A further attempt keeps the settings and the delays, whether or not failures are forgotten. -/
theorem Configured.redial (configured : subscription.Configured) :
    subscription.redial.Configured := by
  obtain ⟨valid, initial, maximum⟩ := configured
  unfold Subscription.redial
  constructor
  · exact valid
  · dsimp only
    split <;> exact initial
  · dsimp only
    split <;> exact maximum

/-- A loss keeps the settings and the delays, and only counts one more failure. -/
theorem Configured.lose (configured : subscription.Configured) (now : Instant) :
    (subscription.lose now).Configured := by
  rw [lose_eq]
  exact ⟨configured.valid, configured.initial, configured.maximum⟩

/-- A move keeps the settings and the delays, whatever else it changes. -/
theorem Configured.move (configured : before.Configured) (move : Move before effects after) :
    after.Configured := by
  cases move with
  | wake | giveUp | openUp | stayOpen | hear | takeIn | report | warn | stop =>
    exact { configured with }
  | dial ready => exact { configured.redial with }
  | beRefused now ready => exact configured.redial.lose now
  | fail now connection present => exact configured.lose now

/-- Any moves keep the settings and the delays, hence so does every operation of the
subscription. -/
theorem Configured.moves (configured : before.Configured) (moves : Moves before effects after) :
    after.Configured := by
  induction moves with
  | none subscription => exact configured
  | next move rest inductionHypothesis => exact inductionHypothesis (configured.move move)

/-- Before its deadlines a subscription does nothing, so polling it more often than it asks for is
harmless. -/
theorem poll_of_undue (line : Line) (undue : Instant.isDue subscription.nextDeadline now = false) :
    subscription.poll line now = ⟨subscription, []⟩ := by
  rw [nextDeadline, Instant.is_due_earliest, Instant.is_due_earliest, Bool.or_eq_false_iff,
    Bool.or_eq_false_iff] at undue
  obtain ⟨⟨reconnect, window⟩, warning⟩ := undue
  simp [poll, pollReconnect, pollWindow, pollWarning, reconnect, window, warning, Outcome.andThen]

/-- After dialling no further attempt is due: one that is refused is made again later. -/
theorem dial_undue (line : Line) (configured : subscription.Configured)
    (disconnected : subscription.connection = none) (ready : subscription.state ≠ .connecting)
    (unset : subscription.reconnectAt = none) (inside : now < Instant.last) :
    Instant.isDue (subscription.dial line now).state.reconnectAt now = false := by
  rw [dial_eq line now disconnected ready]
  cases line.accepting with
  | true =>
    rw [if_pos rfl, unset]
    rfl
  | false =>
    rw [if_neg Bool.false_ne_true, lose_eq]
    exact Instant.undue_after inside configured.delay_pos

/-- After the first part of a poll no attempt is due: the one that was set is made, and the next one
lies ahead by a positive delay. -/
theorem poll_reconnect_undue (line : Line) (coherent : subscription.Coherent)
    (configured : subscription.Configured) (inside : now < Instant.last) :
    Instant.isDue (subscription.pollReconnect line now).state.reconnectAt now = false := by
  unfold pollReconnect
  by_cases due : Instant.isDue subscription.reconnectAt now = true
  · have waiting := coherent.retry.mp (Instant.isSome_of_is_due due)
    have disconnected := coherent.disconnected (.inr waiting)
    let cleared : Subscription := { subscription with reconnectAt := none }
    have kept : cleared.Configured := { configured with }
    have ready : cleared.state ≠ .connecting := by simp [cleared, waiting]
    rw [if_pos due, if_pos waiting]
    exact dial_undue line kept disconnected ready rfl inside
  · rw [if_neg due]
    simpa using due

/-- The second part leaves the attempt as the first part set it, and no window that is due to be
closed. -/
theorem poll_window_undue (now : Instant) (subscription : Subscription) :
    (subscription.pollWindow now).state.reconnectAt = subscription.reconnectAt ∧
      Instant.isDue (subscription.pollWindow now).state.debounceAt now = false := by
  unfold pollWindow
  split
  · exact ⟨rfl, rfl⟩
  · rename_i later
    exact ⟨rfl, by simpa using later⟩

/-- The third part leaves both as they were, and no warning that is due. So the parts of a poll do
not undo each other's work. -/
theorem poll_warning_undue (now : Instant) (subscription : Subscription) :
    (subscription.pollWarning now).state.reconnectAt = subscription.reconnectAt ∧
      (subscription.pollWarning now).state.debounceAt = subscription.debounceAt ∧
      Instant.isDue (subscription.pollWarning now).state.warningAt now = false := by
  unfold pollWarning
  split
  · exact ⟨rfl, rfl, rfl⟩
  · rename_i later
    exact ⟨rfl, rfl, by simpa using later⟩

/-- After a poll no deadline of a subscription has passed, so whoever sleeps until its next deadline
does not wake up at once. -/
theorem poll_undue (line : Line) (coherent : subscription.Coherent)
    (configured : subscription.Configured) (inside : now < Instant.last) :
    Instant.isDue (subscription.poll line now).state.nextDeadline now = false := by
  let redialled := (subscription.pollReconnect line now).state
  let closed := (redialled.pollWindow now).state
  have attempt := poll_reconnect_undue line coherent configured inside
  obtain ⟨sameAttempt, window⟩ := poll_window_undue now redialled
  obtain ⟨keptAttempt, keptWindow, warning⟩ := poll_warning_undue now closed
  rw [poll, Outcome.state_andThen, Outcome.state_andThen, nextDeadline, Instant.is_due_earliest,
    Instant.is_due_earliest, Bool.or_eq_false_iff, Bool.or_eq_false_iff]
  refine ⟨⟨?_, ?_⟩, warning⟩
  · rw [keptAttempt, sameAttempt]
    exact attempt
  · rw [keptWindow]
    exact window

end Subscription

end LiveTabs

import LiveTabs.Proofs.Stream.GrowingDelay
import LiveTabs.Proofs.Stream.Incidents

/-!
# Delays in the course of a run

Failures are counted from the last time that a connection was open or that a start led to an attempt
(`failures`). The number of failures that a subscription shows is the length of that list, and each
failure sets a time for the next attempt, which lies the delay after the failure that belongs to its
place in the list. Seen as a sequence these delays begin with the first delay of the settings, never
shrink and never exceed the longest, also where the number of failures is no longer counted.
-/

namespace LiveTabs

/-- Valid settings have no first delay that is longer than the longest, so the first wait is the
first delay itself. -/
theorem StreamConfig.delays_ordered {config : StreamConfig} (valid : config.fault? = none) :
    config.initialBackoff ≤ config.maxBackoff := by
  unfold fault? at valid
  split at valid
  · cases valid
  split at valid
  · cases valid
  split at valid
  · cases valid
  rename_i ordered
  exact Nat.not_lt.mp ordered

/-- The delay before the next attempt when a connection fails after some failures. -/
def StreamConfig.retryDelay (config : StreamConfig) (earlier : Nat) : Duration :=
  (Subscription.create config).backoff.delayFor (min earlier Backoff.attemptLimit)

namespace Episode

/-- The failures that are counted after an incident. -/
def failuresAfter (before : List Instant) : Incident → List Instant
  | .launched | .opened => []
  | .failed now => before ++ [now]
  | .redialled | .stopped => before

/-- The times of the failures since a connection was last open or a start last led to an attempt. -/
def failures (history : List Episode) : List Instant :=
  (history.flatMap Episode.incidents).foldl failuresAfter []

/-- A further episode adds its incidents to those that were counted before, in their order. -/
theorem failures_concat (history : List Episode) (episode : Episode) :
    failures (history ++ [episode]) = episode.incidents.foldl failuresAfter (failures history) := by
  simp [failures]

end Episode

open Episode (failures failuresAfter failures_concat)

variable {config : StreamConfig}

/-- What is known agrees with the failures that are counted. -/
structure Losses.Counts (config : StreamConfig) (failures : List Instant) (losses : Losses) :
    Prop where
  initial : losses.backoff.initial = config.initialBackoff
  maximum : losses.backoff.maximum = config.maxBackoff
  attempt : losses.backoff.attempt = min failures.length Backoff.attemptLimit
  /-- What is waited for was set by the last failure. -/
  retry : ∀ deadline, losses.reconnectAt = some deadline → ∃ earlier last,
    failures = earlier ++ [last] ∧ deadline = last.after (config.retryDelay earlier.length)

namespace Losses.Counts

variable {failures : List Instant} {losses : Losses}

/-- The delay before the next attempt is the one that belongs to the number of failures. -/
theorem delay_eq (counts : Counts config failures losses) :
    losses.backoff.delay = config.retryDelay failures.length := by
  obtain ⟨⟨initial, maximum, attempt⟩, reconnectAt⟩ := losses
  obtain ⟨rfl, rfl, rfl, -⟩ := counts
  rfl

/-- An incident keeps the agreement: a failure is counted on both sides, and an open connection
clears both counts. -/
theorem after (counts : Counts config failures losses) (patience : Option Duration)
    (incident : Incident) :
    Counts config (failuresAfter failures incident) (losses.after patience incident) := by
  cases incident with
  | launched | opened =>
    refine ⟨counts.initial, counts.maximum, (Nat.zero_min _).symm, ?_⟩
    rintro deadline ⟨⟩
  | redialled | stopped =>
    refine ⟨counts.initial, counts.maximum, counts.attempt, ?_⟩
    rintro deadline ⟨⟩
  | failed now =>
    refine ⟨counts.initial, counts.maximum, ?_, ?_⟩
    · show min (losses.backoff.attempt + 1) Backoff.attemptLimit = min (failures ++ [now]).length _
      rw [counts.attempt, List.length_append, List.length_singleton]
      omega
    · rintro deadline ⟨⟩
      exact ⟨failures, now, rfl, by rw [counts.delay_eq]⟩

/-- Any incidents keep the agreement, hence so does an episode, which is a list of them. -/
theorem after_all (counts : Counts config failures losses) (patience : Option Duration)
    (incidents : List Incident) :
    Counts config (incidents.foldl failuresAfter failures)
      (incidents.foldl (Losses.after patience) losses) := by
  induction incidents generalizing failures losses with
  | nil => exact counts
  | cons incident rest inductionHypothesis =>
    exact inductionHypothesis (counts.after patience incident)

/-- A warning has nothing to do with the failures that are counted. -/
theorem warn (counts : Counts config failures losses) (input : StreamInput) :
    Counts config failures (losses.warn input).1 := by
  obtain ⟨backoff, reconnectAt, -⟩ := losses.warn_keeps input
  obtain ⟨initial, maximum, attempt, retry⟩ := counts
  constructor
  · rwa [backoff]
  · rwa [backoff]
  · rwa [backoff]
  · rwa [reconnectAt]

end Losses.Counts

namespace Subscription

variable {subscription : Subscription} {history : List Episode}

/-- A subscription counts its failures in the course of any input, as the account of its incidents
does. -/
theorem take_counts (input : StreamInput) (coherent : subscription.Coherent)
    (counts : Losses.Counts config (failures history) subscription.losses) :
    Losses.Counts config (failures (history ++ [subscription.episode input]))
      (subscription.take input).state.losses := by
  have suffered := (counts.after_all subscription.config.disconnectWarning
    (subscription.incidents input)).warn input
  rw [failures_concat, (take_losses input coherent).1]
  exact suffered

/-- What a subscription shows of its failures after a history, and what it makes of the next one. -/
structure Retries (config : StreamConfig) (history : List Episode) (subscription : Subscription) :
    Prop where
  /-- It shows the number of failures, as far as that is counted. -/
  attempt : subscription.retryAttempt = min (failures history).length Backoff.attemptLimit
  /-- It waits until the delay that belongs to the last failure is over. -/
  waiting : subscription.state = .waiting → ∃ earlier last, failures history = earlier ++ [last] ∧
    subscription.reconnectAt = some (last.after (config.retryDelay earlier.length))
  /-- Whatever fails next, it waits for the delay that belongs to that failure. -/
  next : ∀ input now, .failed now ∈ subscription.incidents input →
    (subscription.take input).state.state = .waiting ∧
      ∃ earlier, failures (history ++ [subscription.episode input]) = earlier ++ [now] ∧
        (subscription.take input).state.reconnectAt =
          some (now.after (config.retryDelay earlier.length))

/-- A subscription that counts its failures waits for the next attempt as it should. -/
theorem retries_of_counts (coherent : subscription.Coherent)
    (counts : Losses.Counts config (failures history) subscription.losses) :
    Retries config history subscription where
  attempt := counts.attempt
  waiting := by
    intro waiting
    obtain ⟨deadline, set⟩ := Option.isSome_iff_exists.mp (coherent.retry.mpr waiting)
    obtain ⟨earlier, last, counted, same⟩ := counts.retry deadline set
    exact ⟨earlier, last, counted, same ▸ set⟩
  next := by
    intro input now failed
    obtain ⟨opening, incidents⟩ := failure_is_last coherent failed
    let between := opening.foldl failuresAfter (failures history)
    have counted : failures (history ++ [subscription.episode input]) = between ++ [now] := by
      rw [failures_concat]
      show (subscription.incidents input).foldl _ _ = _
      rw [incidents, List.foldl_append]
      rfl
    have set : (subscription.take input).state.reconnectAt =
        some (now.after (config.retryDelay between.length)) := by
      have known := counts.after_all subscription.config.disconnectWarning opening
      show (subscription.take input).state.losses.reconnectAt = _
      rw [(take_losses input coherent).1, (Losses.warn_keeps _ input).2.1, suffered, incidents,
        List.foldl_append, ← known.delay_eq]
      rfl
    have waiting := (coherent.moves (take_moves input coherent)).retry.mp (by rw [set]; rfl)
    exact ⟨waiting, between, counted, set⟩

/-- A new subscription has had no failures, which is what it counts. -/
theorem create_counts (config : StreamConfig) :
    Losses.Counts config (failures []) (create config).losses := by
  refine ⟨rfl, rfl, (Nat.zero_min _).symm, ?_⟩
  rintro deadline ⟨⟩

/-- The delays between attempts grow from the first one of the settings to the longest, for as long
as no connection is open and the subscription is not started anew; settings are valid and no longer
than the host can measure. In every run the number of failures that is shown is that of the failures
since a connection was open or a start led to an attempt, as far as it is counted. After every
failure the subscription waits, and while it waits the next attempt is due when the delay that
belongs to the last failure is over.

Proof: what the subscription knows of its failures agrees with those that befell it, and every
incident keeps that up. A failure is the last incident at its input, so the time that it sets is
kept. -/
theorem retries_with_growing_delays (config : StreamConfig) (valid : config.fault? = none)
    (measured : config.initialBackoff ≤ Duration.longest) :
    (config.retryDelay 0 = config.initialBackoff ∧
      (∀ earlier later, earlier ≤ later → config.retryDelay earlier ≤ config.retryDelay later) ∧
      ∀ earlier, config.retryDelay earlier ≤ config.maxBackoff) ∧
    ∀ inputs, Retries config (episodes inputs (create config))
      ((create config).run inputs).state := by
  refine ⟨⟨?_, ?_, ?_⟩, ?_⟩
  · exact Backoff.delay_for_zero (StreamConfig.delays_ordered valid) measured
  · intro earlier later before
    exact Backoff.delay_mono _ (by omega)
  · exact fun earlier => Backoff.delay_le_maximum _ _
  · intro inputs
    have coherent := create_coherent config
    have counts : Losses.Counts config (failures (episodes inputs (create config)))
        ((create config).run inputs).state.losses := by
      refine episodes_keep (fun _ => True)
        (fun history subscription => Losses.Counts config (failures history) subscription.losses)
        ?_ coherent (create_counts config) inputs fun _ _ => trivial
      exact fun history before input coherent _ counts => take_counts input coherent counts
    exact retries_of_counts (coherent.moves (run_moves inputs coherent)) counts

/-- A tenth of a second after the epoch, when a connection is lost. -/
def lossAt : Instant := ⟨100000000, by decide, by decide⟩

/-- One second later, when the first new attempt is refused. -/
def firstRefusalAt : Instant := ⟨1100000000, by decide, by decide⟩

/-- Two seconds later, when the second new attempt is refused. -/
def secondRefusalAt : Instant := ⟨3100000000, by decide, by decide⟩

/-- Four seconds later, when the third new attempt is due. -/
def thirdRefusalAt : Instant := ⟨7100000000, by decide, by decide⟩

/-- A connection that was open and fails, and two attempts that are refused. -/
def lossAndRefusals : List StreamInput :=
  [.start {} .epoch, .signal .epoch 1 .opened, .signal lossAt 1 (.failed "reset"),
    .poll { accepting := false } firstRefusalAt, .poll { accepting := false } secondRefusalAt]

/-- After three failures in a row the next attempt is due four seconds after the last of them, and a
further refusal at that time leads to an attempt eight seconds later. -/
theorem delays_double_while_refused :
    let history := episodes lossAndRefusals (create {})
    let left := ((create {}).run lossAndRefusals).state
    let refusal : StreamInput := .poll { accepting := false } thirdRefusalAt
    (failures history).map Instant.nanoseconds = [100000000, 1100000000, 3100000000] ∧
      left.retryAttempt = 3 ∧ left.reconnectAt.map Instant.nanoseconds = some 7100000000 ∧
      (left.take refusal).state.state = .waiting ∧
      (left.take refusal).state.reconnectAt.map Instant.nanoseconds = some 15100000000 := by
  intro history left refusal
  have counted : failures history = [lossAt, firstRefusalAt, secondRefusalAt] := by
    decide +kernel
  have refused : .failed thirdRefusalAt ∈ left.incidents refusal := by
    have incidents : left.incidents refusal = [.redialled, .failed thirdRefusalAt] := by rfl
    rw [incidents]
    exact .tail _ (.head _)
  have further : failures (history ++ [left.episode refusal]) =
      [lossAt, firstRefusalAt, secondRefusalAt] ++ [thirdRefusalAt] := by
    decide +kernel
  have runs :=
    (retries_with_growing_delays {} (by decide +kernel) (by decide +kernel)).2 lossAndRefusals
  have parted : failures history = [lossAt, firstRefusalAt] ++ [secondRefusalAt] := counted
  obtain ⟨earlier, last, before, due⟩ := runs.waiting (by decide +kernel)
  obtain ⟨waiting, sooner, after, next⟩ := runs.next refusal thirdRefusalAt refused
  refine ⟨by rw [counted]; rfl, ?_, ?_, waiting, ?_⟩
  · rw [runs.attempt, counted]
    decide
  · rw [due]
    obtain ⟨rfl, rfl⟩ := List.append_singleton_inj.mp (before.symm.trans parted)
    decide +kernel
  · rw [next]
    obtain ⟨rfl, -⟩ := List.append_singleton_inj.mp (after.symm.trans further)
    decide +kernel

end Subscription

end LiveTabs

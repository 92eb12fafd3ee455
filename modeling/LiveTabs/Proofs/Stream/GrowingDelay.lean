import LiveTabs.Stream.Subscription

/-!
# Growing delays

The delay after some failures should be the first delay, doubled for each of them, or the longest
delay if that is shorter (`cappedPower`). It is so as long as the doubling factor has 32 bits. A
product that is too long to be measured does not matter, because it exceeds the longest delay
anyway; but a factor of more than 32 bits gives the longest delay even where the product is shorter
than that. So delays are as they should be after any number of failures exactly if the longest one
is at most 2 ^ 32 times the first. In any case they grow from the first one to the longest and never
shrink.
-/

namespace LiveTabs

namespace Backoff

variable {backoff : Backoff} {attempt first second : Nat}

/-- The first delay, doubled for every failure, but no more than the longest delay. -/
def cappedPower (backoff : Backoff) (attempt : Nat) : Duration :=
  ⟨min (backoff.initial.nanoseconds * Nat.pow 2 attempt) backoff.maximum.nanoseconds⟩

/-- A delay is the capped power while the factor has 32 bits and the product can be measured, and
the longest one otherwise. -/
theorem delay_for_eq (backoff : Backoff) (attempt : Nat) :
    backoff.delayFor attempt =
      if attempt < 32 ∧
          backoff.initial.nanoseconds * Nat.pow 2 attempt ≤ Duration.longest.nanoseconds then
        backoff.cappedPower attempt
      else backoff.maximum := by
  have shorter : Duration.min (backoff.initial.scale (Nat.pow 2 attempt)) backoff.maximum =
      backoff.cappedPower attempt := by
    unfold Duration.min cappedPower
    split
    · rename_i below
      exact congrArg Duration.mk (Nat.min_eq_left below).symm
    · rename_i above
      exact congrArg Duration.mk (Nat.min_eq_right (Nat.le_of_not_le above)).symm
  rw [← shorter]
  unfold delayFor
  by_cases within : attempt < 32 ∧
      backoff.initial.nanoseconds * Nat.pow 2 attempt ≤ Duration.longest.nanoseconds
  · rw [if_pos within, if_pos within.1]
    exact if_pos within.2
  · rw [if_neg within]
    by_cases small : attempt < 32
    · rw [if_pos small]
      exact if_neg fun measured => within ⟨small, measured⟩
    · rw [if_neg small]

/-- No delay is longer than the longest one, however many failures there were. -/
theorem delay_le_maximum (backoff : Backoff) (attempt : Nat) :
    backoff.delayFor attempt ≤ backoff.maximum := by
  rw [delay_for_eq]
  split
  · exact Nat.min_le_right _ _
  · exact Nat.le_refl _

/-- Delays never shrink. Once the longest delay was reached, also because of a factor that is too
large, it is not left any more. -/
theorem delay_mono (backoff : Backoff) (later : first ≤ second) :
    backoff.delayFor first ≤ backoff.delayFor second := by
  have grows : backoff.initial.nanoseconds * Nat.pow 2 first ≤
      backoff.initial.nanoseconds * Nat.pow 2 second :=
    Nat.mul_le_mul_left _ (Nat.pow_le_pow_right Nat.two_pos later)
  rw [delay_for_eq backoff second]
  split
  · rename_i within
    obtain ⟨small, measured⟩ := within
    rw [delay_for_eq, if_pos ⟨Nat.lt_of_le_of_lt later small, Nat.le_trans grows measured⟩]
    exact Nat.le_min.mpr ⟨Nat.le_trans (Nat.min_le_left _ _) grows, Nat.min_le_right _ _⟩
  · exact backoff.delay_le_maximum first

/-- Without failures the delay is the first one, if that is within the bounds of the longest one and
of what can be measured. -/
theorem delay_for_zero (ordered : backoff.initial ≤ backoff.maximum)
    (measured : backoff.initial ≤ Duration.longest) : backoff.delayFor 0 = backoff.initial := by
  have once : backoff.initial.nanoseconds * Nat.pow 2 0 = backoff.initial.nanoseconds :=
    Nat.mul_one _
  rw [delay_for_eq, once, if_pos ⟨by decide, measured⟩, cappedPower, once]
  exact congrArg Duration.mk (Nat.min_eq_left ordered)

/-- With a factor of more than 32 bits the delay is the longest one, even where the product would be
less. -/
theorem delay_for_large (large : 32 ≤ attempt) : backoff.delayFor attempt = backoff.maximum := by
  rw [delay_for_eq, if_neg fun both => Nat.not_lt.mpr large both.1]

/-- With a factor of 32 bits the delay is the capped power, whether or not the product can be
measured. -/
theorem delay_for_small (measured : backoff.maximum ≤ Duration.longest) (small : attempt < 32) :
    backoff.delayFor attempt = backoff.cappedPower attempt := by
  rw [delay_for_eq]
  split
  · rfl
  · rename_i other
    have beyond : Duration.longest.nanoseconds < backoff.initial.nanoseconds * Nat.pow 2 attempt :=
      Nat.lt_of_not_le fun product => other ⟨small, product⟩
    have above := Nat.le_trans measured (Nat.le_of_lt beyond)
    exact congrArg Duration.mk (Nat.min_eq_right above).symm

/-- The capped power is the longest delay exactly if that is no more than the power. -/
theorem capped_power_eq_maximum_iff :
    backoff.cappedPower attempt = backoff.maximum ↔
      backoff.maximum.nanoseconds ≤ backoff.initial.nanoseconds * Nat.pow 2 attempt := by
  have reached : min (backoff.initial.nanoseconds * Nat.pow 2 attempt) backoff.maximum.nanoseconds =
      backoff.maximum.nanoseconds ↔
        backoff.maximum.nanoseconds ≤ backoff.initial.nanoseconds * Nat.pow 2 attempt := by omega
  rw [← reached]
  exact ⟨congrArg Duration.nanoseconds, congrArg Duration.mk⟩

/-- Settings have at most 2 ^ 64 - 1 milliseconds, which can be measured, so the longest span that
can be measured does not cut them. -/
theorem setting_measured :
    (Duration.ofMilliseconds (Nat.pow 2 64 - 1)).nanoseconds ≤ Duration.longest.nanoseconds := by
  decide

/-- A delay is the capped power exactly if its factor has 32 bits or the power has reached the
longest delay; otherwise it is the longest delay too early. So it is the capped power after any
number of failures exactly if the longest delay is at most 2 ^ 32 times the first.

Proof: a product that cannot be measured exceeds every setting. A larger factor gives the longest
delay, and the capped power is that exactly if the power has reached it, which it goes on doing once
it has. -/
theorem delay_exact_iff (backoff : Backoff)
    (settable : backoff.maximum ≤ .ofMilliseconds (Nat.pow 2 64 - 1)) :
    (∀ attempt, backoff.delayFor attempt = backoff.cappedPower attempt ↔
      attempt < 32 ∨
        backoff.maximum.nanoseconds ≤ backoff.initial.nanoseconds * Nat.pow 2 attempt) ∧
    (∀ attempt, 32 ≤ attempt → backoff.delayFor attempt = backoff.maximum) ∧
    ((∀ attempt, backoff.delayFor attempt = backoff.cappedPower attempt) ↔
      backoff.maximum.nanoseconds ≤ backoff.initial.nanoseconds * Nat.pow 2 32) := by
  have measured : backoff.maximum ≤ Duration.longest := Nat.le_trans settable setting_measured
  have exactIff : ∀ attempt, backoff.delayFor attempt = backoff.cappedPower attempt ↔
      attempt < 32 ∨
        backoff.maximum.nanoseconds ≤ backoff.initial.nanoseconds * Nat.pow 2 attempt := by
    intro attempt
    by_cases small : attempt < 32
    · exact iff_of_true (delay_for_small measured small) (.inl small)
    · rw [delay_for_large (Nat.le_of_not_lt small), eq_comm, capped_power_eq_maximum_iff]
      exact (or_iff_right small).symm
  refine ⟨exactIff, fun _ => delay_for_large, ?_⟩
  constructor
  · intro always
    exact ((exactIff 32).mp (always 32)).resolve_left (Nat.lt_irrefl 32)
  · intro reached attempt
    rw [exactIff]
    refine (Nat.lt_or_ge attempt 32).imp_right fun large => ?_
    exact Nat.le_trans reached (Nat.mul_le_mul_left _ (Nat.pow_le_pow_right Nat.two_pos large))

/-- Settings with a first delay of a millisecond and a longest one of 58 days. -/
def wideConfig : StreamConfig :=
  { initialBackoff := .ofMilliseconds 1, maxBackoff := .ofMilliseconds 5000000000 }

/-- From a millisecond to 58 days it takes a factor of more than 32 bits, so not all delays are
exact. -/
theorem wide_delays_inexact :
    let backoff := (Subscription.create wideConfig).backoff
    backoff.maximum ≤ .ofMilliseconds (Nat.pow 2 64 - 1) ∧
      backoff.delayFor 31 = .ofMilliseconds 2147483648 ∧
      backoff.delayFor 33 = .ofMilliseconds 5000000000 ∧
      ¬∀ attempt, backoff.delayFor attempt = backoff.cappedPower attempt := by
  intro backoff
  have settable : backoff.maximum ≤ .ofMilliseconds (Nat.pow 2 64 - 1) := by decide
  obtain ⟨one, large, always⟩ := delay_exact_iff backoff settable
  refine ⟨settable, ?_, large 33 (by decide), ?_⟩
  · rw [(one 31).mpr (.inl (by decide))]
    decide +kernel
  · rw [always]
    decide +kernel

/-- Valid settings under which a delay is longer than it should be: after 32 failures the first
delay was doubled to 49 days, but the delay is the longest one at once. -/
theorem delay_beyond_capped_power :
    let backoff := (Subscription.create wideConfig).backoff
    wideConfig.fault? = none ∧ backoff.cappedPower 32 = .ofMilliseconds 4294967296 ∧
      backoff.delayFor 32 = .ofMilliseconds 5000000000 ∧
      backoff.delayFor 32 ≠ backoff.cappedPower 32 := by
  decide +kernel

end Backoff

end LiveTabs

import LiveTabs.Clock
import LiveTabs.Lease
import LiveTabs.Proofs.Time.WholeMilliseconds

/-!
# Deadlines and ages

Whether a span has passed since an instant is asked in two ways: the age that has passed since then
is compared with the span, or the present time with the deadline that lies the span later. A lease
is given up by its age and renewed at a deadline, and a tab that waits turns its deadline into a
reading of a steady clock. All of these agree (`deadlines_agree_with_ages`), also where a deadline
would lie beyond the end of the calendar: it is moved to the last instant then, which no time is
later than.

A deadline is computed by signed arithmetic with checks: the span has to fit into 2 ^ 63 - 1
milliseconds, and the sum into the calendar (`checkedAfter`). The first check never decides, because
the calendar is shorter than that.
-/

namespace LiveTabs

/-- The nanoseconds of the longest span that signed arithmetic can hold. -/
def Duration.signedLimit : Nat := (Nat.pow 2 63 - 1) * 1000000

/-- A span as a signed number of nanoseconds, unless it is too long for that. -/
def Duration.signed? (span : Duration) : Option Int :=
  if span.nanoseconds ≤ signedLimit then some span.nanoseconds else none

namespace Instant

/-- The instant that lies a signed number of nanoseconds later, if the calendar reaches it. -/
def move? (start : Instant) (nanoseconds : Int) : Option Instant :=
  ofNanoseconds? (start.nanoseconds + nanoseconds)

/-- The instant `delay` after `start` by checked arithmetic: the last instant if a check fails. -/
def checkedAfter (start : Instant) (delay : Duration) : Instant :=
  (delay.signed?.bind start.move?).getD last

variable (start since now : Instant) (delay : Duration)

/-- An instant is moved forward as far as the calendar reaches, and not at all beyond it. -/
theorem move_forward :
    start.move? delay.nanoseconds =
      if start.nanoseconds + delay.nanoseconds ≤ lastNanosecond then some (start.after delay)
      else none := by
  have first := start.notBefore
  rw [move?, ofNanoseconds?]
  split
  · rename_i bounds
    rw [if_pos bounds.2]
    exact congrArg some (Instant.ext (after_inside bounds.2).symm)
  · rename_i outside
    rw [if_neg]
    omega

/-- A span that signed arithmetic cannot hold leads beyond the end of the calendar from anywhere. -/
theorem beyond_of_unsigned (long : Duration.signedLimit < delay.nanoseconds) :
    lastNanosecond < start.nanoseconds + delay.nanoseconds := by
  have limit : Duration.signedLimit = 9223372036854775807 * 1000000 := by decide
  have first : firstNanosecond = -8334601228800000 * 1000000 := rfl
  have last : lastNanosecond = 8210266876799999 * 1000000 + 999999 := rfl
  have bound := start.notBefore
  omega

/-- Checked arithmetic gives the deadline, whichever of its steps fails: all of them end at the last
instant. -/
theorem checked_after_eq : start.checkedAfter delay = start.after delay := by
  have beyond (outside : ¬start.nanoseconds + delay.nanoseconds ≤ lastNanosecond) :
      start.after delay = last := by rw [after, dif_neg outside]
  rw [checkedAfter, Duration.signed?]
  split
  · rw [Option.bind_some, move_forward]
    split
    · rfl
    · rename_i outside
      exact (beyond outside).symm
  · rename_i long
    have outside := start.beyond_of_unsigned delay (Nat.lt_of_not_le long)
    exact (beyond (Int.not_le.mpr outside)).symm

/-- A deadline is the sum, but no later than the last instant. All comparisons below are made in
these numbers. -/
theorem nanoseconds_after :
    (start.after delay).nanoseconds =
      Min.min (start.nanoseconds + delay.nanoseconds) lastNanosecond := by
  rw [after]
  split
  · rename_i inside
    exact (Int.min_eq_left inside).symm
  · rename_i outside
    exact (Int.min_eq_right (Int.le_of_not_le outside)).symm

/-- An age is the difference, but never negative: what lies in the future has no age. -/
theorem nanoseconds_elapsed :
    ((elapsed since now).nanoseconds : Int) = max (now.nanoseconds - since.nanoseconds) 0 :=
  Int.toNat_eq_max _

/-- A deadline has passed exactly when the sum has, because no time is later than the last
instant. -/
theorem after_lt_iff :
    start.after delay < now ↔ start.nanoseconds + delay.nanoseconds < now.nanoseconds := by
  have bound := now.notAfter
  show (start.after delay).nanoseconds < now.nanoseconds ↔ _
  rw [nanoseconds_after]
  omega

/-- The age exceeds a span exactly when the deadline that lies the span later has passed. -/
theorem lt_elapsed_iff_after_lt : delay < elapsed since now ↔ since.after delay < now := by
  rw [lt_elapsed_iff, after_lt_iff]

/-- The deadline that lies the age later is now, or the start if that is later. So ages and
deadlines undo each other. -/
theorem nanoseconds_after_elapsed :
    (since.after (elapsed since now)).nanoseconds = max since.nanoseconds now.nanoseconds := by
  have first := since.notAfter
  have second := now.notAfter
  rw [nanoseconds_after, nanoseconds_elapsed]
  omega

end Instant

/-- A lease is stale exactly when the deadline that lies its time to live later has passed. -/
theorem Lease.is_stale_iff_deadline_passed (lease : Lease) (now : Instant) (ttl : Duration) :
    lease.isStale now ttl = true ↔ lease.acquiredAt.after ttl < now := by
  rw [isStale, decide_eq_true_iff, Instant.lt_elapsed_iff_after_lt]

namespace AnchoredClock

variable (clock : AnchoredClock) (deadline : Instant)

/-- Nothing falls due before the anchor, because a deadline in the past is due at once. -/
theorem anchor_le_reading_at : clock.anchor ≤ clock.readingAt deadline := Nat.le_add_right _ _

/-- A deadline is due exactly at the readings from its own on, so sleeping until that reading
neither misses it nor is too early. -/
theorem due_at_reading_iff {reading : Duration} (started : clock.anchor ≤ reading) :
    Instant.isDue (some deadline) (clock.timeAt reading) = true ↔
      clock.readingAt deadline ≤ reading := by
  have counted : clock.anchor.nanoseconds ≤ reading.nanoseconds := started
  have age := Instant.nanoseconds_elapsed clock.wall deadline
  have bound := deadline.notAfter
  rw [Instant.isDue, decide_eq_true_iff, Instant.le_iff, timeAt, Instant.nanoseconds_after]
  show _ ↔ clock.anchor.nanoseconds + (Instant.elapsed clock.wall deadline).nanoseconds ≤
    reading.nanoseconds
  dsimp only
  omega

end AnchoredClock

namespace Instant

/-- A deadline is the exact sum, but no later than the last instant, as checked arithmetic gives it.
An age is the exact difference, but never negative. The age exceeds a span exactly when the deadline
has passed, so a lease is stale exactly then. The age leads back to now, unless the start is later.
A steady clock that has reached the reading of a deadline finds it due, and at no earlier reading
from the anchor on.

Proof: all of these are comparisons of the same sum, in which the last instant stands for whatever
is beyond it. -/
theorem deadlines_agree_with_ages (since now : Instant) (span : Duration) :
    (since.after span).nanoseconds = Min.min (since.nanoseconds + span.nanoseconds) lastNanosecond ∧
    since.after span = since.checkedAfter span ∧
    ((elapsed since now).nanoseconds : Int) = max (now.nanoseconds - since.nanoseconds) 0 ∧
    (span < elapsed since now ↔ since.after span < now) ∧
    (∀ owner, Lease.isStale ⟨owner, since⟩ now span = true ↔ since.after span < now) ∧
    (since.after (elapsed since now)).nanoseconds = max since.nanoseconds now.nanoseconds ∧
    ∀ (clock : AnchoredClock) (deadline : Instant), clock.anchor ≤ clock.readingAt deadline ∧
      ∀ reading, clock.anchor ≤ reading →
        (isDue (some deadline) (clock.timeAt reading) = true ↔
          clock.readingAt deadline ≤ reading) := by
  refine ⟨nanoseconds_after since span, (checked_after_eq since span).symm,
    nanoseconds_elapsed since now, lt_elapsed_iff_after_lt since now span, ?_,
    nanoseconds_after_elapsed since now, ?_⟩
  · intro owner
    exact Lease.is_stale_iff_deadline_passed ⟨owner, since⟩ now span
  · intro clock deadline
    refine ⟨clock.anchor_le_reading_at deadline, ?_⟩
    intro reading started
    exact clock.due_at_reading_iff deadline started

/-- The deadline of a span that signed arithmetic cannot hold is the last instant, so that it never
passes. A steady clock that read 5 nanoseconds at the epoch finds the last instant due at the
reading for it, and not a nanosecond sooner. -/
theorem due_at_end_of_calendar :
    let span := Duration.ofMilliseconds (Nat.pow 2 64 - 1)
    let clock : AnchoredClock := ⟨epoch, ⟨5⟩⟩
    let reading := clock.readingAt last
    let sooner : Duration := ⟨reading.nanoseconds - 1⟩
    epoch.after span = last ∧ ¬span < elapsed epoch last ∧
      clock.anchor ≤ reading ∧ isDue (some last) (clock.timeAt reading) = true ∧
      clock.anchor ≤ sooner ∧ isDue (some last) (clock.timeAt sooner) = false := by
  intro span clock reading sooner
  obtain ⟨-, -, -, passed, -, -, waits⟩ := deadlines_agree_with_ages epoch last span
  obtain ⟨anchored, due⟩ := waits clock last
  have counted : clock.anchor ≤ sooner := by decide
  have endReached : epoch.after span = last := by decide
  refine ⟨endReached, ?_, anchored, (due reading anchored).mpr (Nat.le_refl _), counted, ?_⟩
  · rw [passed, endReached]
    decide
  · rw [← Bool.not_eq_true, due sooner counted]
    decide

end Instant

end LiveTabs

import LiveTabs.Time

/-!
# Instants in whole milliseconds

The wire counts time in whole milliseconds, so an instant that was written down comes back as the
last whole millisecond before it. Where all instants are whole to begin with, nothing is lost. The
order of instants and the deadlines computed from them are stated through their nanoseconds, so
that they are decided by arithmetic on integers.
-/

namespace LiveTabs

namespace Instant

/-- Instants follow each other as their nanoseconds do, so their order is left to arithmetic. -/
theorem le_iff (first second : Instant) :
    first ≤ second ↔ first.nanoseconds ≤ second.nanoseconds := Iff.rfl

/-- The last whole millisecond that is not after the instant. -/
def truncate (instant : Instant) : Instant where
  nanoseconds := instant.milliseconds * 1000000
  notBefore := by
    have first : firstNanosecond = -8334601228800000 * 1000000 := rfl
    have bound := instant.notBefore
    simp only [milliseconds, Int.fdiv_eq_ediv]
    omega
  notAfter := by
    have bound := instant.notAfter
    simp only [milliseconds, Int.fdiv_eq_ediv]
    omega

/-- Milliseconds that were taken from an instant lead back to its last whole millisecond. -/
@[simp] theorem of_milliseconds_of_instant (instant : Instant) :
    ofMilliseconds? instant.milliseconds = some instant.truncate := by
  have bounds : firstNanosecond ≤ instant.milliseconds * 1000000 ∧
      instant.milliseconds * 1000000 ≤ lastNanosecond :=
    ⟨instant.truncate.notBefore, instant.truncate.notAfter⟩
  rw [ofMilliseconds?, ofNanoseconds?, dif_pos bounds]
  rfl

/-- The milliseconds of an instant fit into 64 bits, so they can be written as an integer and read
back. -/
theorem milliseconds_bounds (instant : Instant) :
    -(Nat.pow 2 63 : Int) ≤ instant.milliseconds ∧
      instant.milliseconds < (Nat.pow 2 64 : Int) := by
  have half : Nat.pow 2 63 = 9223372036854775808 := by decide
  have whole : Nat.pow 2 64 = 18446744073709551616 := by decide
  have first : firstNanosecond = -8334601228800000 * 1000000 := rfl
  have last : lastNanosecond = 8210266876799999 * 1000000 + 999999 := rfl
  have lower := instant.notBefore
  have upper := instant.notAfter
  simp only [milliseconds, Int.fdiv_eq_ediv]
  omega

/-- An instant without a part of a millisecond. -/
def IsWhole (instant : Instant) : Prop := (1000000 : Int) ∣ instant.nanoseconds

instance (instant : Instant) : Decidable instant.IsWhole :=
  inferInstanceAs (Decidable ((1000000 : Int) ∣ instant.nanoseconds))

/-- The instant a number of milliseconds after the epoch. -/
def sinceEpoch (milliseconds : Nat) : Instant := epoch.after (.ofMilliseconds milliseconds)

/-- A whole instant is its own last whole millisecond, so nothing of it is lost when it is
stored. -/
theorem truncate_of_whole (instant : Instant) (whole : instant.IsWhole) :
    instant.truncate = instant := by
  apply Instant.ext
  simp only [truncate, milliseconds, Int.fdiv_eq_ediv]
  unfold IsWhole at whole
  omega

/-- A deadline lies at most its delay later, whether or not the calendar ends first. -/
theorem after_le (start : Instant) (delay : Duration) :
    (start.after delay).nanoseconds ≤ start.nanoseconds + delay.nanoseconds := by
  unfold after
  split
  · exact Int.le_refl _
  · rename_i outside
    show lastNanosecond ≤ _
    omega

/-- Inside the calendar a deadline lies exactly its delay later. Only at its end are deadlines cut
short. -/
theorem after_inside {start : Instant} {delay : Duration}
    (inside : start.nanoseconds + delay.nanoseconds ≤ lastNanosecond) :
    (start.after delay).nanoseconds = start.nanoseconds + delay.nanoseconds := by
  rw [after, dif_pos inside]

/-- The whole calendar has fewer than 2 ^ 64 milliseconds, so every age fits into a message. -/
theorem elapsed_milliseconds_lt (since now : Instant) :
    (elapsed since now).milliseconds < Nat.pow 2 64 := by
  have later := now.notAfter
  have earlier := since.notBefore
  unfold lastNanosecond at later
  unfold firstNanosecond at earlier
  show (now.nanoseconds - since.nanoseconds).toNat / 1000000 < 18446744073709551616
  omega

/-- A deadline is not before its start, whether or not the calendar ends first. So waiting never
goes back in time. -/
theorem le_after (start : Instant) (delay : Duration) : start ≤ start.after delay := by
  rw [le_iff]
  unfold after
  split
  · show start.nanoseconds ≤ start.nanoseconds + delay.nanoseconds
    omega
  · exact start.notAfter

/-- More time than a span has passed exactly when now is later than the span after the start. -/
theorem lt_elapsed_iff (span : Duration) (since now : Instant) :
    span < elapsed since now ↔ since.nanoseconds + span.nanoseconds < now.nanoseconds := by
  show span.nanoseconds < (now.nanoseconds - since.nanoseconds).toNat ↔ _
  omega

/-- A deadline is due exactly when it is set and not later than now, the very instant included. -/
theorem is_due_iff (deadline : Option Instant) (now : Instant) :
    isDue deadline now = true ↔ ∃ instant, deadline = some instant ∧ instant ≤ now := by
  cases deadline <;> simp [isDue]

/-- A deadline that is due is set, so whoever finds it due knows what is to be done. -/
theorem isSome_of_is_due {deadline : Option Instant} {now : Instant}
    (due : isDue deadline now = true) : deadline.isSome = true := by
  obtain ⟨instant, set, -⟩ := (is_due_iff deadline now).mp due
  rw [set]
  rfl

/-- A deadline is not due exactly when it is unset or later than now, in which case it lies
ahead. -/
theorem is_due_eq_false_iff (deadline : Option Instant) (now : Instant) :
    isDue deadline now = false ↔ ∀ instant, deadline = some instant → now < instant := by
  cases deadline with
  | none => simp [isDue]
  | some instant =>
    rw [isDue, decide_eq_false_iff_not]
    constructor
    · rintro later _ ⟨⟩
      exact Int.not_le.mp later
    · intro later
      exact Int.not_le.mpr (later instant rfl)

/-- Before the end of the calendar a deadline is due exactly when its delay has passed. -/
theorem is_due_after_iff {now : Instant} (inside : now < last) (start : Instant)
    (delay : Duration) :
    isDue (some (start.after delay)) now = true ↔
      start.nanoseconds + delay.nanoseconds ≤ now.nanoseconds := by
  rw [isDue, decide_eq_true_iff, le_iff, after]
  split
  · exact Iff.rfl
  · rename_i beyond
    have before : now.nanoseconds < lastNanosecond := inside
    refine iff_of_false (Int.not_le.mpr before) ?_
    omega

/-- Before the end of the calendar, a deadline with a positive delay is not due at once. -/
theorem undue_after {now : Instant} {delay : Duration} (inside : now < last)
    (positive : 0 < delay.nanoseconds) : isDue (some (now.after delay)) now = false := by
  rw [← Bool.not_eq_true, is_due_after_iff inside]
  omega

/-- The earlier of two deadlines is due when one of them is, so the earliest deadline speaks for
all. -/
theorem is_due_earliest (first second : Option Instant) (now : Instant) :
    isDue (earliest first second) now = (isDue first now || isDue second now) := by
  cases first with
  | none => cases second <;> simp [earliest, isDue]
  | some left =>
    cases second with
    | none => simp [earliest, isDue]
    | some right =>
      simp only [earliest, isDue, min, le_iff]
      grind

/-- Now is not past the earlier of two deadlines exactly when it is past neither, which is what
waiting for it means. -/
theorem before_earliest_iff (first second : Option Instant) (now : Instant) :
    (∀ deadline, earliest first second = some deadline → now ≤ deadline) ↔
      (∀ deadline, first = some deadline → now ≤ deadline) ∧
        ∀ deadline, second = some deadline → now ≤ deadline := by
  cases first with
  | none => cases second <;> simp [earliest]
  | some left =>
    cases second with
    | none => simp [earliest]
    | some right =>
      simp only [earliest, Option.some.injEq, forall_eq', min, le_iff]
      split <;> omega

end Instant

end LiveTabs

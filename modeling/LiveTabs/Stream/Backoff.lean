import LiveTabs.Time

/-!
# Delays between attempts

The delay before an attempt doubles with every failure and is capped. The doubling factor is kept
within 32 bits and the product within the longest span that the host can measure; where either is
exceeded the delay is the cap.
-/

namespace LiveTabs

/-- The longest span that the host can measure, one nanosecond short of 2 ^ 64 seconds. -/
def Duration.longest : Duration := ⟨Nat.pow 2 64 * 1000000000 - 1⟩

/-- Delays that double up to a cap, and the number of failures so far. -/
structure Backoff where
  initial : Duration
  maximum : Duration
  attempt : Nat := 0
deriving DecidableEq

namespace Backoff

/-- The greatest number of failures that is counted. -/
def attemptLimit : Nat := Nat.pow 2 32 - 1

/-- The delay after a given number of failures. -/
def delayFor (backoff : Backoff) (attempt : Nat) : Duration :=
  if attempt < 32 then
    let delay := backoff.initial.scale (Nat.pow 2 attempt)
    if delay ≤ Duration.longest then Duration.min delay backoff.maximum else backoff.maximum
  else backoff.maximum

/-- The delay before the next attempt. -/
def delay (backoff : Backoff) : Duration := backoff.delayFor backoff.attempt

/-- Counts a failure. -/
def countFailure (backoff : Backoff) : Backoff :=
  { backoff with attempt := min (backoff.attempt + 1) attemptLimit }

/-- Forgets the failures. -/
def reset (backoff : Backoff) : Backoff := { backoff with attempt := 0 }

end Backoff

end LiveTabs

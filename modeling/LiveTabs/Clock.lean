import LiveTabs.Time

/-!
# Anchored clocks

The clock on the wall may be set, but a steady clock only counts on. So the wall is looked at once,
and from then on the time is what the steady clock has counted since. To wait for an instant is to
wait for the reading of the steady clock at which it falls due.
-/

namespace LiveTabs

/-- The time on the wall, carried on by a steady clock. A reading of the steady clock is the span
since a start of its own. -/
structure AnchoredClock where
  /-- The time on the wall when it was looked at. -/
  wall : Instant
  /-- The reading of the steady clock at that moment. -/
  anchor : Duration
deriving DecidableEq

namespace AnchoredClock

/-- The time at a reading of the steady clock. No time has passed at a reading before the anchor. -/
def timeAt (clock : AnchoredClock) (reading : Duration) : Instant :=
  clock.wall.after ⟨reading.nanoseconds - clock.anchor.nanoseconds⟩

/-- The reading of the steady clock at which an instant falls due. What is past falls due at the
anchor. -/
def readingAt (clock : AnchoredClock) (instant : Instant) : Duration :=
  ⟨clock.anchor.nanoseconds + (Instant.elapsed clock.wall instant).nanoseconds⟩

end AnchoredClock

end LiveTabs

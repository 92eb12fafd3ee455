/-!
# Instants and durations

An instant is a count of nanoseconds since the Unix epoch, kept inside the years that the wall
clock can show. A duration is a count of nanoseconds without an upper end. Moving forward stops at
the last instant, and the time between two instants is never negative, so deadlines computed with
`Instant.after` and ages computed with `Instant.elapsed` speak about the same line of time.
-/

namespace LiveTabs

/-- A span of time in nanoseconds. -/
structure Duration where
  nanoseconds : Nat
deriving DecidableEq

namespace Duration

/-- No time at all. -/
def zero : Duration := ⟨0⟩

/-- A span given in whole milliseconds. -/
def ofMilliseconds (milliseconds : Nat) : Duration := ⟨milliseconds * 1000000⟩

/-- The whole milliseconds in a span; a part of one is dropped. -/
def milliseconds (span : Duration) : Nat := span.nanoseconds / 1000000

/-- The span taken `count` times. -/
def scale (span : Duration) (count : Nat) : Duration := ⟨span.nanoseconds * count⟩

/-- The shorter of two spans. -/
def min (first second : Duration) : Duration :=
  if first.nanoseconds ≤ second.nanoseconds then first else second

/-- Spans are ordered by their length. -/
instance : LT Duration := ⟨fun first second => first.nanoseconds < second.nanoseconds⟩

/-- Spans are ordered by their length. -/
instance : LE Duration := ⟨fun first second => first.nanoseconds ≤ second.nanoseconds⟩

instance (first second : Duration) : Decidable (first < second) :=
  inferInstanceAs (Decidable (first.nanoseconds < second.nanoseconds))

instance (first second : Duration) : Decidable (first ≤ second) :=
  inferInstanceAs (Decidable (first.nanoseconds ≤ second.nanoseconds))

/-- Reading back whole milliseconds gives the count that was put in. -/
@[simp] theorem milliseconds_ofMilliseconds (count : Nat) :
    (ofMilliseconds count).milliseconds = count := by
  simp [ofMilliseconds, milliseconds]

end Duration

/-- Nanoseconds of the first instant of the calendar, in the year -262143. -/
def Instant.firstNanosecond : Int := -8334601228800000 * 1000000

/-- Nanoseconds of the last instant of the calendar, one nanosecond before the year 262143. -/
def Instant.lastNanosecond : Int := 8210266876799999 * 1000000 + 999999

/-- A moment on the wall clock, in nanoseconds since the Unix epoch. The bounds belong to the type,
so no operation can leave the calendar. -/
structure Instant where
  nanoseconds : Int
  notBefore : Instant.firstNanosecond ≤ nanoseconds
  notAfter : nanoseconds ≤ Instant.lastNanosecond
deriving DecidableEq

namespace Instant

/-- An instant is known by its nanoseconds. -/
@[ext] theorem ext {first second : Instant} (same : first.nanoseconds = second.nanoseconds) :
    first = second := by
  cases first
  cases second
  simp_all

/-- Instants are ordered as they follow each other. -/
instance : LT Instant := ⟨fun first second => first.nanoseconds < second.nanoseconds⟩

/-- Instants are ordered as they follow each other. -/
instance : LE Instant := ⟨fun first second => first.nanoseconds ≤ second.nanoseconds⟩

instance (first second : Instant) : Decidable (first < second) :=
  inferInstanceAs (Decidable (first.nanoseconds < second.nanoseconds))

instance (first second : Instant) : Decidable (first ≤ second) :=
  inferInstanceAs (Decidable (first.nanoseconds ≤ second.nanoseconds))

/-- Midnight of the first of January 1970. -/
def epoch : Instant := ⟨0, by decide, by decide⟩

/-- The last instant of the calendar. -/
def last : Instant := ⟨lastNanosecond, by decide, by decide⟩

/-- The instant with a given number of nanoseconds, if the calendar reaches it. -/
def ofNanoseconds? (nanoseconds : Int) : Option Instant :=
  if bounds : firstNanosecond ≤ nanoseconds ∧ nanoseconds ≤ lastNanosecond then
    some ⟨nanoseconds, bounds.1, bounds.2⟩
  else none

/-- The instant a whole number of milliseconds after the epoch, if the calendar reaches it. -/
def ofMilliseconds? (milliseconds : Int) : Option Instant :=
  ofNanoseconds? (milliseconds * 1000000)

/-- Whole milliseconds since the epoch, rounded down. -/
def milliseconds (instant : Instant) : Int := Int.fdiv instant.nanoseconds 1000000

/-- The instant `delay` after `start`. Beyond the end of the calendar it is the last instant. -/
def after (start : Instant) (delay : Duration) : Instant :=
  if inside : start.nanoseconds + delay.nanoseconds ≤ lastNanosecond then
    ⟨start.nanoseconds + delay.nanoseconds, by have := start.notBefore; omega, inside⟩
  else last

/-- The time that passed from `since` to `now`, zero if `now` is earlier. -/
def elapsed (since now : Instant) : Duration := ⟨(now.nanoseconds - since.nanoseconds).toNat⟩

/-- The earlier of two instants. -/
def min (first second : Instant) : Instant := if first ≤ second then first else second

/-- The earlier of two deadlines; a deadline that is not set never wins. -/
def earliest : Option Instant → Option Instant → Option Instant
  | some first, some second => some (min first second)
  | some first, none => some first
  | none, second => second

/-- Whether a deadline is set and has been reached. -/
def isDue (deadline : Option Instant) (now : Instant) : Bool :=
  match deadline with
  | some instant => decide (instant ≤ now)
  | none => false

end Instant

end LiveTabs

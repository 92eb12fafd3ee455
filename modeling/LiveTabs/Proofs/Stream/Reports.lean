import LiveTabs.Proofs.Stream.Moves

/-!
# What a subscription reports

A subscription reports every change of its state, so the last state that it reported is its state. A
warning tells of a time between two instants, which is short enough for the channel between the
tabs.
-/

namespace LiveTabs

namespace StreamEffect

/-- The states that effects report. -/
def states (effects : List StreamEffect) : List StreamState :=
  effects.filterMap fun effect => match effect with
    | .report (.stateChanged state) => some state
    | _ => none

/-- The states reported by effects that follow each other are those of the first and then those of
the second. -/
@[simp] theorem states_append (first second : List StreamEffect) :
    states (first ++ second) = states first ++ states second :=
  List.filterMap_append

/-- The spans of time of which effects warn. -/
def warnings (effects : List StreamEffect) : List Duration :=
  effects.filterMap fun effect => match effect with
    | .report (.disconnectWarning disconnectedFor) => some disconnectedFor
    | _ => none

/-- The warnings of effects that follow each other are those of the first and then those of the
second. -/
@[simp] theorem warnings_append (first second : List StreamEffect) :
    warnings (first ++ second) = warnings first ++ warnings second :=
  List.filterMap_append

end StreamEffect

namespace Subscription

open StreamEffect (states warnings)

variable {before after : Subscription} {effects : List StreamEffect}

/-- The state after a move is the last one reported, or the one before if none is. So reports never
leave a state untold. -/
theorem Move.last_state (move : Move before effects after) :
    (states effects).getLast?.getD before.state = after.state := by
  cases move with
  | wake | giveUp | dial | beRefused | fail | openUp | hear | report | warn => rfl
  | stayOpen now connected => exact connected
  | takeIn now event connected =>
    unfold eventReports
    split <;> rfl
  | stop running supported => cases before.connection <;> rfl

/-- The state after any moves is the last one reported, or the one before if none is. -/
theorem Moves.last_state (moves : Moves before effects after) :
    (states effects).getLast?.getD before.state = after.state := by
  induction moves with
  | none subscription => rfl
  | next move rest inductionHypothesis =>
    rename_i first later
    have moved := move.last_state
    rw [StreamEffect.states_append, List.getLast?_append]
    cases last : (states later).getLast? with
    | none => simpa [last, moved] using inductionHypothesis
    | some state => simpa [last] using inductionHypothesis

/-- A move warns of fewer than 2 ^ 64 milliseconds, because no two instants of the calendar are
further apart. A message can carry such a number. -/
theorem Move.warnings_short (move : Move before effects after) :
    ∀ disconnectedFor ∈ warnings effects, disconnectedFor.milliseconds < Nat.pow 2 64 := by
  cases move with
  | warn now lostAt due lost =>
    intro disconnectedFor there
    rw [List.mem_singleton.mp there]
    exact Instant.elapsed_milliseconds_lt lostAt now
  | takeIn now event connected =>
    unfold eventReports
    split <;> exact nofun
  | stop running supported => cases before.connection <;> exact nofun
  | wake | giveUp | dial | beRefused | fail | openUp | stayOpen | hear | report => exact nofun

/-- Any moves warn of fewer than 2 ^ 64 milliseconds, hence every warning of a subscription can be
told in a message. -/
theorem Moves.warnings_short (moves : Moves before effects after) :
    ∀ disconnectedFor ∈ warnings effects, disconnectedFor.milliseconds < Nat.pow 2 64 := by
  induction moves with
  | none subscription => exact nofun
  | next move rest inductionHypothesis =>
    intro disconnectedFor there
    rw [StreamEffect.warnings_append] at there
    obtain first | later := List.mem_append.mp there
    · exact move.warnings_short disconnectedFor first
    · exact inductionHypothesis disconnectedFor later

end Subscription

end LiveTabs

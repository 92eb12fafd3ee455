import LiveTabs.Proofs.Stream.Incidents

/-!
# Outages and their warnings

An outage begins with the first failure after a start or after a connection was open, and lasts
until a connection is open or the subscription is stopped; the attempts and failures in between
belong to it. The outages of a run are read off its episodes (`Outages.of`). In each of them the
subscription gives one warning, at the first poll that comes when the outage has lasted for as long
as it is borne, and none if there is no such poll (`Outage.Warned`). No warning is given at any
other time.
-/

namespace LiveTabs

/-- Whether an input comes before the end of the calendar. -/
def StreamInput.IsInside : StreamInput → Prop
  | .start _ now | .poll _ now | .signal now _ _ => now < .last
  | .stop => True

instance : DecidablePred StreamInput.IsInside := fun input =>
  match input with
  | .start _ now | .poll _ now | .signal now _ _ => inferInstanceAs (Decidable (now < .last))
  | .stop => inferInstanceAs (Decidable True)

/-- The warnings of an episode. -/
def Episode.warnings (episode : Episode) : List Duration := StreamEffect.warnings episode.effects

/-- A time without a connection. -/
structure Outage where
  /-- The time of the first failure. -/
  began : Instant
  /-- What happened from then on. -/
  course : List Episode := []

namespace Outage

/-- The warnings that were given in an outage. -/
def warnings (outage : Outage) : List Duration := outage.course.flatMap Episode.warnings

/-- The outage with a further episode. -/
def extend (outage : Outage) (episode : Episode) : Outage :=
  { outage with course := outage.course ++ [episode] }

/-- A further episode adds its warnings to those of the outage, after the ones that were given
before. -/
theorem warnings_extend (outage : Outage) (episode : Episode) :
    (outage.extend episode).warnings = outage.warnings ++ episode.warnings := by
  simp [warnings, extend]

/-- An input is a poll at a time when the outage has lasted for as long as it is borne. -/
def Overdue (patience : Option Duration) (outage : Outage) (input : StreamInput) (now : Instant) :
    Prop :=
  ∃ line borne, input = .poll line now ∧ patience = some borne ∧
    outage.began.nanoseconds + borne.nanoseconds ≤ now.nanoseconds

/-- Nothing is to be warned of in an episode, and nothing is. -/
def Quiet (patience : Option Duration) (outage : Outage) (episode : Episode) : Prop :=
  (∀ now, ¬outage.Overdue patience episode.input now) ∧ episode.warnings = []

/-- An outage is warned of at the first poll at which that is due, and only then. -/
inductive Warned (patience : Option Duration) (outage : Outage) : Prop
  | notYet (quiet : ∀ episode ∈ outage.course, outage.Quiet patience episode)
  | once (before : List Episode) (episode : Episode) (later : List Episode) (now : Instant)
      (course : outage.course = before ++ episode :: later)
      (quiet : ∀ earlier ∈ before, outage.Quiet patience earlier)
      (overdue : outage.Overdue patience episode.input now)
      (warning : episode.warnings = [Instant.elapsed outage.began now])
      (silent : ∀ after ∈ later, after.warnings = [])

end Outage

/-- The outages of a history: those that have ended, and the one that lasts. -/
structure Outages where
  ended : List Outage := []
  lasting : Option Outage := none

namespace Outages

/-- All outages, in the order of time. -/
def all (outages : Outages) : List Outage := outages.ended ++ outages.lasting.toList

/-- What an incident does to outages: a failure begins one if none lasts, and an outage ends when a
connection is open, when the subscription is stopped, and at the latest when it is started again. -/
def next (outages : Outages) : Incident → Outages
  | .failed now => { outages with lasting := some (outages.lasting.getD { began := now }) }
  | .launched | .opened | .stopped => { ended := outages.all }
  | .redialled => outages

/-- The outages after an episode, which belongs to the outage that lasts when all has happened. -/
def after (outages : Outages) (episode : Episode) : Outages :=
  let between := episode.incidents.foldl next outages
  { between with lasting := between.lasting.map (·.extend episode) }

/-- The outages of a history. -/
def of (history : List Episode) : Outages := history.foldl after {}

/-- All warnings that were given in outages. -/
def warnings (outages : Outages) : List Duration := outages.all.flatMap Outage.warnings

/-- No incident is a warning: it may end an outage or begin one, but the warnings given so far stay
what they are. -/
theorem warnings_next (outages : Outages) (incident : Incident) :
    (outages.next incident).warnings = outages.warnings := by
  obtain ⟨ended, lasting⟩ := outages
  cases incident with
  | launched | opened | stopped => exact congrArg (List.flatMap _) (List.append_nil _)
  | redialled => rfl
  | failed now =>
    cases lasting with
    | none =>
      show (ended ++ [_]).flatMap _ = (ended ++ []).flatMap _
      rw [List.append_nil, List.flatMap_append]
      exact List.append_nil _
    | some outage => rfl

/-- An episode adds its warnings to the outage that lasts, and to the end of all warnings so far.
Outside outages there is nothing to add. -/
theorem warnings_extend (outages : Outages) {episode : Episode}
    (outside : outages.lasting = none → episode.warnings = []) :
    warnings { outages with lasting := outages.lasting.map (·.extend episode) } =
      outages.warnings ++ episode.warnings := by
  obtain ⟨ended, lasting⟩ := outages
  cases lasting with
  | none =>
    rw [outside rfl, List.append_nil]
    rfl
  | some outage =>
    show (ended ++ [outage.extend episode]).flatMap _ = (ended ++ [outage]).flatMap _ ++ _
    rw [List.flatMap_append, List.flatMap_append, List.flatMap_singleton, List.flatMap_singleton,
      Outage.warnings_extend, List.append_assoc]

/-- A further episode continues the outages, so they can be followed along a run. -/
theorem of_concat (history : List Episode) (episode : Episode) :
    of (history ++ [episode]) = (of history).after episode := by
  rw [of, List.foldl_append]
  rfl

end Outages

namespace Outage

variable {patience : Option Duration} {outage : Outage}

/-- Nothing is warned of in episodes in which nothing is to be warned of. These are the episodes
before the one in which the warning is due. -/
theorem warnings_of_quiet {episodes : List Episode}
    (quiet : ∀ episode ∈ episodes, outage.Quiet patience episode) :
    episodes.flatMap Episode.warnings = [] :=
  List.flatMap_eq_nil_iff.mpr fun episode there => (quiet episode there).2

/-- An outage that is warned of as it should be has one warning, when it has lasted long enough, or
none. -/
theorem Warned.warnings_eq (warned : outage.Warned patience) :
    outage.warnings = [] ∨ ∃ now borne, patience = some borne ∧
      outage.began.nanoseconds + borne.nanoseconds ≤ now.nanoseconds ∧
      outage.warnings = [Instant.elapsed outage.began now] := by
  cases warned with
  | notYet quiet => exact .inl (warnings_of_quiet quiet)
  | once before episode later now course quiet overdue warning silent =>
    obtain ⟨-, borne, -, patience, late⟩ := overdue
    refine .inr ⟨now, borne, patience, late, ?_⟩
    have last : later.flatMap Episode.warnings = [] := List.flatMap_eq_nil_iff.mpr silent
    rw [warnings, course, List.flatMap_append, List.flatMap_cons, warnings_of_quiet quiet, last,
      warning]
    rfl

/-- An outage that is warned of as it should be has at most one warning: all but one of its episodes
give none. -/
theorem Warned.length_le (warned : outage.Warned patience) : outage.warnings.length ≤ 1 := by
  obtain silent | ⟨now, -, -, -, one⟩ := warned.warnings_eq
  · rw [silent]
    exact Nat.zero_le 1
  · rw [one]
    exact Nat.le_refl 1

/-- A warning tells of no less time than an outage is borne, since it is due only after that time
and tells how long it has been since the loss. -/
theorem Warned.long (warned : outage.Warned patience) {span : Duration}
    (given : span ∈ outage.warnings) :
    ∃ borne, patience = some borne ∧ borne ≤ span := by
  obtain silent | ⟨now, borne, bears, late, warnings⟩ := warned.warnings_eq
  · rw [silent] at given
    cases given
  · rw [warnings, List.mem_singleton] at given
    refine ⟨borne, bears, ?_⟩
    subst given
    show borne.nanoseconds ≤ (now.nanoseconds - outage.began.nanoseconds).toNat
    omega

/-- When an outage is going to be warned of. -/
def warningAt (patience : Option Duration) (outage : Outage) : Option Instant :=
  if outage.warnings = [] then patience.map outage.began.after else none

/-- A poll before the end of the calendar is to warn of an outage exactly if its warning is due. -/
theorem due_iff {now : Instant} (inside : now < .last) (line : Line) :
    Instant.isDue (outage.warningAt patience) now = true ↔
      outage.warnings = [] ∧ outage.Overdue patience (.poll line now) now := by
  rw [warningAt]
  by_cases unwarned : outage.warnings = []
  · rw [if_pos unwarned, and_iff_right unwarned]
    cases patience with
    | none => exact iff_of_false Bool.false_ne_true fun ⟨_, _, _, bears, _⟩ => nomatch bears
    | some borne =>
      rw [Option.map_some, Instant.is_due_after_iff inside]
      constructor
      · exact fun late => ⟨line, borne, rfl, rfl, late⟩
      · rintro ⟨_, _, _, ⟨⟩, late⟩
        exact late
  · rw [if_neg unwarned]
    exact iff_of_false Bool.false_ne_true fun both => unwarned both.1

/-- An outage goes on being warned of as it should be when a warning is not to be given. -/
theorem Warned.extend (warned : outage.Warned patience) {episode : Episode}
    (silent : episode.warnings = [])
    (undue : outage.warnings = [] → ∀ now, ¬outage.Overdue patience episode.input now) :
    (outage.extend episode).Warned patience := by
  cases warned with
  | notYet quiet =>
    have last : outage.Quiet patience episode := ⟨undue (warnings_of_quiet quiet), silent⟩
    exact .notYet (List.forall_mem_append.mpr ⟨quiet, List.forall_mem_singleton.mpr last⟩)
  | once before overdue later now course quiet late warning after =>
    refine .once before overdue (later ++ [episode]) now ?_ quiet late warning ?_
    · show outage.course ++ [episode] = _
      rw [course, List.append_assoc, List.cons_append]
    · exact List.forall_mem_append.mpr ⟨after, List.forall_mem_singleton.mpr silent⟩

/-- An outage is warned of when that is due for the first time: until then all of its episodes were
quiet, and from then on it has its warning. -/
theorem Warned.extend_overdue (warned : outage.Warned patience) (unwarned : outage.warnings = [])
    {episode : Episode} {now : Instant} (overdue : outage.Overdue patience episode.input now)
    (warning : episode.warnings = [Instant.elapsed outage.began now]) :
    (outage.extend episode).Warned patience := by
  cases warned with
  | notYet quiet =>
    exact .once outage.course episode [] now rfl quiet overdue warning
      fun _ there => absurd there List.not_mem_nil
  | once before other later now course quiet late warning after =>
    have given : Instant.elapsed outage.began now ∈ outage.warnings := by
      have there : other ∈ outage.course := by
        rw [course]
        exact List.mem_append_right _ List.mem_cons_self
      refine List.mem_flatMap.mpr ⟨other, there, ?_⟩
      rw [warning]
      exact List.mem_singleton_self _
    rw [unwarned] at given
    cases given

end Outage

/-- What is known agrees with the outage that lasts, which is warned of as it should be. -/
structure Losses.Tracks (patience : Option Duration) (lasting : Option Outage) (losses : Losses) :
    Prop where
  lost : losses.lostAt = lasting.map Outage.began
  set : losses.warningAt = lasting.bind (Outage.warningAt patience)
  warned : ∀ outage ∈ lasting, outage.Warned patience

namespace Losses.Tracks

variable {patience : Option Duration} {losses : Losses} {lasting : Option Outage}

/-- An incident keeps the agreement: a first failure begins an outage and sets the time of its
warning, an open connection or a stop ends it and clears that time. -/
theorem next {outages : Outages} (tracks : Tracks patience outages.lasting losses)
    (incident : Incident) :
    Tracks patience (outages.next incident).lasting (losses.after patience incident) := by
  obtain ⟨lost, set, warned⟩ := tracks
  cases incident with
  | launched | opened | stopped => exact ⟨rfl, rfl, by rintro _ ⟨⟩⟩
  | redialled => exact ⟨lost, set, warned⟩
  | failed now =>
    show Tracks patience (some (outages.lasting.getD { began := now }))
      ⟨_, _, some (losses.lostAt.getD now), if losses.lostAt.isSome then losses.warningAt else _⟩
    rw [lost, set]
    cases lasting : outages.lasting with
    | none =>
      refine ⟨rfl, rfl, ?_⟩
      rintro _ ⟨⟩
      exact .notYet fun _ there => absurd there List.not_mem_nil
    | some outage => exact ⟨rfl, rfl, lasting ▸ warned⟩

/-- Without an outage nothing is warned of, because the time of a warning is set by a loss and
cleared with it. -/
theorem warn_none (tracks : Tracks patience none losses) (input : StreamInput) :
    (losses.warn input).2 = [] := by
  cases input with
  | start | stop | signal => rfl
  | poll line now =>
    have undue : ¬Instant.isDue losses.warningAt now = true := by
      rw [tracks.set]
      exact Bool.false_ne_true
    rw [warn, if_neg undue]

/-- An episode without a warning belongs to the outage that lasts as a quiet one, if no warning is
due in it. -/
theorem extend_silent (tracks : Tracks patience lasting losses) {episode : Episode}
    (silent : episode.warnings = []) (undue : ∀ outage ∈ lasting, outage.warnings = [] →
      ∀ now, ¬outage.Overdue patience episode.input now) :
    Tracks patience (lasting.map (·.extend episode)) losses := by
  obtain ⟨lost, set, warned⟩ := tracks
  cases lasting with
  | none => exact ⟨lost, set, by rintro _ ⟨⟩⟩
  | some outage =>
    refine ⟨lost, ?_, ?_⟩
    · rw [set]
      show outage.warningAt patience = (outage.extend episode).warningAt patience
      rw [Outage.warningAt, Outage.warningAt, Outage.warnings_extend, silent, List.append_nil]
      rfl
    · rintro _ ⟨⟩
      exact (warned outage rfl).extend silent (undue outage rfl)

/-- The warning that is due is given, and the episode belongs to the outage that lasts. -/
theorem warn (tracks : Tracks patience lasting losses) {episode : Episode}
    (inside : episode.input.IsInside) (told : episode.warnings = (losses.warn episode.input).2) :
    Tracks patience (lasting.map (·.extend episode)) (losses.warn episode.input).1 := by
  obtain ⟨input, incidents, effects⟩ := episode
  cases input with
  | start | stop | signal =>
    refine tracks.extend_silent told ?_
    rintro outage - - now ⟨_, _, other, _⟩
    cases other
  | poll line now =>
    have warns : losses.warn (.poll line now) =
        if Instant.isDue losses.warningAt now then
          ({ losses with warningAt := none }, losses.lostAt.toList.map (Instant.elapsed · now))
        else (losses, []) := rfl
    dsimp only at told inside ⊢
    rw [warns] at told ⊢
    by_cases due : Instant.isDue losses.warningAt now = true
    · rw [if_pos due] at told ⊢
      obtain ⟨lost, set, warned⟩ := tracks
      rw [set] at due
      cases lasting with
      | none => cases due
      | some outage =>
        obtain ⟨unwarned, overdue⟩ := (Outage.due_iff inside line).mp due
        rw [lost] at told
        refine ⟨lost, ?_, ?_⟩
        · have given : (outage.extend ⟨.poll line now, incidents, effects⟩).warnings ≠ [] := by
            rw [Outage.warnings_extend, told]
            exact List.append_ne_nil_of_right_ne_nil _ (List.cons_ne_nil _ _)
          exact (if_neg given).symm
        · rintro _ ⟨⟩
          exact (warned outage rfl).extend_overdue unwarned overdue told
    · rw [if_neg due] at told ⊢
      refine tracks.extend_silent told ?_
      rintro outage lasts unwarned later ⟨line, borne, ⟨⟩, bears, late⟩
      refine due ?_
      rw [tracks.set, Option.mem_def.mp lasts]
      exact (Outage.due_iff inside line).mpr ⟨unwarned, line, borne, rfl, bears, late⟩

end Losses.Tracks

/-- What is known agrees with the outages, all of which are warned of as they should be, and there
were no other warnings than those in outages. -/
structure Losses.Agrees (patience : Option Duration) (outages : Outages) (given : List Duration)
    (losses : Losses) : Prop where
  ended : ∀ outage ∈ outages.ended, outage.Warned patience
  lasting : Tracks patience outages.lasting losses
  given : outages.warnings = given

namespace Losses.Agrees

variable {patience : Option Duration} {outages : Outages} {given : List Duration} {losses : Losses}

/-- All outages are warned of as they should be, the ended ones and the one that lasts. This is what
the agreement is for. -/
theorem warned (agrees : Agrees patience outages given losses) :
    ∀ outage ∈ outages.all, outage.Warned patience := by
  intro outage there
  obtain ended | lasting := List.mem_append.mp there
  · exact agrees.ended outage ended
  · exact agrees.lasting.warned outage (Option.mem_toList.mp lasting)

/-- An incident keeps the agreement: a first failure begins an outage and sets the time of its
warning, an open connection or a stop ends it and clears that time. -/
theorem next (agrees : Agrees patience outages given losses) (incident : Incident) :
    Agrees patience (outages.next incident) given (losses.after patience incident) where
  ended := by
    cases incident with
    | launched | opened | stopped => exact agrees.warned
    | redialled | failed => exact agrees.ended
  lasting := agrees.lasting.next incident
  given := (outages.warnings_next incident).trans agrees.given

/-- Any incidents keep the agreement. An input may bring several: an attempt to connect, and its
refusal. -/
theorem next_all (agrees : Agrees patience outages given losses) (incidents : List Incident) :
    Agrees patience (incidents.foldl Outages.next outages) given
      (incidents.foldl (Losses.after patience) losses) := by
  induction incidents generalizing losses outages with
  | nil => exact agrees
  | cons incident rest inductionHypothesis => exact inductionHypothesis (agrees.next incident)

/-- An episode keeps the agreement if its warning is the one that is due after all its incidents. -/
theorem after (agrees : Agrees patience outages given losses) (episode : Episode)
    (inside : episode.input.IsInside)
    (told : episode.warnings =
      ((episode.incidents.foldl (Losses.after patience) losses).warn episode.input).2) :
    Agrees patience (outages.after episode) (given ++ episode.warnings)
      ((episode.incidents.foldl (Losses.after patience) losses).warn episode.input).1 := by
  have between := agrees.next_all episode.incidents
  refine ⟨between.ended, between.lasting.warn inside told, ?_⟩
  rw [← between.given]
  refine Outages.warnings_extend _ ?_
  intro well
  have tracks := between.lasting
  rw [well] at tracks
  rw [told]
  exact tracks.warn_none episode.input

end Losses.Agrees

namespace Subscription

open StreamEffect (warnings)

variable {subscription : Subscription}

/-- The warnings of a run are those of its episodes, so to account for all episodes is to account
for all warnings. -/
theorem warnings_run (inputs : List StreamInput) (subscription : Subscription) :
    warnings (subscription.run inputs).effects =
      (episodes inputs subscription).flatMap Episode.warnings := by
  induction inputs generalizing subscription with
  | nil => rfl
  | cons input rest inductionHypothesis =>
    rw [run, Outcome.effects_andThen, StreamEffect.warnings_append, inductionHypothesis]
    rfl

/-- A subscription agrees with its outages in the course of an input. This is the step of the run
below: the incidents of the input come first, and the look whether to warn comes last. -/
theorem take_agrees {history : List Episode} (input : StreamInput)
    (coherent : subscription.Coherent) (inside : input.IsInside)
    (agrees : subscription.losses.Agrees subscription.config.disconnectWarning (Outages.of history)
      (history.flatMap Episode.warnings)) :
    (subscription.take input).state.losses.Agrees subscription.config.disconnectWarning
      (Outages.of (history ++ [subscription.episode input]))
      ((history ++ [subscription.episode input]).flatMap Episode.warnings) := by
  obtain ⟨known, told⟩ := take_losses input coherent
  rw [known, Outages.of_concat, List.flatMap_append, List.flatMap_singleton]
  exact agrees.after (subscription.episode input) inside told

/-- A new subscription agrees with its outages in the course of any inputs before the end of the
calendar. -/
theorem run_agrees (config : StreamConfig) (inputs : List StreamInput)
    (inside : ∀ input ∈ inputs, input.IsInside) :
    ((create config).run inputs).state.losses.Agrees config.disconnectWarning
      (Outages.of (episodes inputs (create config)))
      (warnings ((create config).run inputs).effects) := by
  have begins : (create config).Founded config ∧
      (create config).losses.Agrees config.disconnectWarning (Outages.of []) [] := by
    refine ⟨create_founded config, ?_, ⟨rfl, rfl, ?_⟩, rfl⟩
    · exact fun _ there => absurd there List.not_mem_nil
    · rintro _ ⟨⟩
  rw [warnings_run]
  refine (episodes_keep StreamInput.IsInside (fun history subscription =>
    subscription.Founded config ∧ subscription.losses.Agrees config.disconnectWarning
      (Outages.of history) (history.flatMap Episode.warnings)) ?_ (create_coherent config) begins
    inputs inside).2
  rintro history before input coherent inside ⟨founded, agrees⟩
  refine ⟨founded.moves (take_moves input coherent), ?_⟩
  rw [← founded.settings] at agrees ⊢
  exact take_agrees input coherent inside agrees

/-- Every outage is warned of once, at the first poll at which it has lasted for as long as it is
borne, and not at all if it ends before that. Whatever fails and is tried again in an outage, no
other warning is given in it, and outside of outages there are none. A warning tells of the time
since the first failure, which is no less than the time for which outages are borne. If they are
borne forever, no warning is ever given.

Proof: what the subscription knows of its losses agrees with the outage that lasts. The incidents at
an input keep that up, and then the warning that is due is given. -/
theorem one_warning_per_outage (config : StreamConfig) (inputs : List StreamInput)
    (inside : ∀ input ∈ inputs, input.IsInside) :
    let outages := Outages.of (episodes inputs (create config))
    (∀ outage ∈ outages.all, outage.Warned config.disconnectWarning ∧ outage.warnings.length ≤ 1 ∧
      ∀ span ∈ outage.warnings, ∃ borne, config.disconnectWarning = some borne ∧ borne ≤ span) ∧
    warnings ((create config).run inputs).effects = outages.warnings ∧
    (config.disconnectWarning = none → warnings ((create config).run inputs).effects = []) := by
  intro outages
  have agrees := run_agrees config inputs inside
  have late : ∀ outage ∈ outages.all, ∀ span ∈ outage.warnings,
      ∃ borne, config.disconnectWarning = some borne ∧ borne ≤ span :=
    fun outage there span given => (agrees.warned outage there).long given
  refine ⟨?_, agrees.given.symm, ?_⟩
  · intro outage there
    have warned := agrees.warned outage there
    exact ⟨warned, warned.length_le, late outage there⟩
  · intro forever
    refine List.eq_nil_iff_forall_not_mem.mpr ?_
    intro span given
    rw [← agrees.given] at given
    obtain ⟨outage, there, given⟩ := List.mem_flatMap.mp given
    obtain ⟨borne, bears, -⟩ := late outage there span given
    rw [forever] at bears
    cases bears

/-- A connection that is lost after a second and refused four times until another one is opened,
which is lost again. -/
def twoOutages : List StreamInput :=
  let refusing : Line := { accepting := false }
  [.start {} .epoch, .signal .epoch 1 .opened, .signal (.sinceEpoch 1000) 1 (.failed "reset"),
    .poll refusing (.sinceEpoch 2000), .poll refusing (.sinceEpoch 4000),
    .poll refusing (.sinceEpoch 8000),
    .poll {} (.sinceEpoch 11500), .poll refusing (.sinceEpoch 16000), .poll {} (.sinceEpoch 32000),
    .signal (.sinceEpoch 32100) 6 .opened, .signal (.sinceEpoch 40000) 6 (.failed "reset"),
    .poll {} (.sinceEpoch 41000), .stop, .poll {} (.sinceEpoch 60000)]

/-- The first outage is warned of at the first poll after its ten seconds and at no later attempt;
the second one ends before it can be warned of. -/
theorem one_warning_in_two_outages :
    let outages := Outages.of (episodes twoOutages (create {}))
    (∀ input ∈ twoOutages, input.IsInside) ∧
      outages.all.map (fun outage => (outage.began, outage.course.length, outage.warnings)) =
        [(.sinceEpoch 1000, 7, [.ofMilliseconds 10500]), (.sinceEpoch 40000, 2, [])] ∧
      (∀ outage ∈ outages.all, outage.Warned (some (.ofMilliseconds 10000))) ∧
      warnings ((create {}).run twoOutages).effects = [.ofMilliseconds 10500] := by
  intro outages
  have inside : ∀ input ∈ twoOutages, input.IsInside := by decide +kernel
  have seen : outages.all.map
    (fun outage => (outage.began, outage.course.length, outage.warnings)) =
      [(.sinceEpoch 1000, 7, [.ofMilliseconds 10500]), (.sinceEpoch 40000, 2, [])] := by
    decide +kernel
  obtain ⟨each, told, -⟩ := one_warning_per_outage {} twoOutages inside
  refine ⟨inside, seen, fun outage there => (each outage there).1, ?_⟩
  have all : outages.warnings = (outages.all.map
      fun outage => (outage.began, outage.course.length, outage.warnings)).flatMap (·.2.2) := by
    rw [List.flatMap_map]
    rfl
  exact told.trans (all.trans (by rw [seen]; rfl))

end Subscription

end LiveTabs

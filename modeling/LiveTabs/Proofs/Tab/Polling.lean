import LiveTabs.Proofs.Lease.Polling
import LiveTabs.Proofs.Stream.Polling
import LiveTabs.Proofs.Tab.Relayed

/-!
# Polls of a tab

The next deadline of a tab is the earliest of those of its candidate and its subscription. Before it
a poll does nothing, so a tab may sleep until then. At or after it a poll does what is due, and
leaves no deadline that has passed: not where the role changes on the way and the subscription is
started or stopped, nor where the storage or the network fails. So a tab that is polled whenever its
deadline has passed is polled at later and later instants (`Wakes.in_order`).
-/

namespace LiveTabs

namespace Tab

variable {line : Line} {now : Instant} {tab : Tab} {input : TabInput} {outcome : Result}

/-- An election gives the tab the candidate that the operation leaves. What follows from the role
does not touch it. -/
theorem candidate_of_elect (operation : Candidate → Access (Candidate × Option Role))
    (gives : Access.MayGive outcome (tab.elect line now operation)) :
    ∃ result, Access.MayGive result (operation tab.candidate) ∧
      outcome.state.candidate = result.1 := by
  obtain ⟨⟨candidate, reported⟩, reached, gives⟩ := Access.may_give_bind _ gives
  refine ⟨_, reached, ?_⟩
  cases reported with
  | none =>
    cases Access.eq_of_may_give_pure gives
    rfl
  | some role =>
    cases Access.eq_of_may_give_pure gives
    exact (take_role_same line now role { tab with candidate }).1

/-- Whatever a tab takes up, the settings of its candidate stay, so they are valid for as long as
the tab lives. -/
theorem config_of_perform (gives : Access.MayGive outcome (tab.perform line now input)) :
    outcome.state.candidate.config = tab.candidate.config := by
  have kept (action : Candidate.Action) (atNow : action.IsAt now) {result : Candidate × Option Role}
      (reached : Access.MayGive result (tab.candidate.act action)) :
      result.1.config = tab.candidate.config :=
    (Access.holds_of_confined _ (Candidate.confined_act tab.candidate atNow) reached).1.config
  cases input with
  | start =>
    obtain ⟨result, reached, same⟩ := candidate_of_elect (·.init now) gives
    rw [same]
    exact kept (.init now) rfl reached
  | news key =>
    obtain ⟨result, reached, same⟩ := candidate_of_elect (·.noticeChange now key) gives
    rw [same]
    exact kept (.noticeChange now (some key)) rfl reached
  | deadline =>
    obtain ⟨elected, election, gives⟩ := Access.may_give_bind _ gives
    obtain ⟨result, reached, same⟩ := candidate_of_elect (·.poll now) election
    cases Access.eq_of_may_give_pure gives
    exact (congrArg Candidate.config same).trans (kept (.poll now) rfl reached)
  | signal connection signal =>
    cases Access.eq_of_may_give_pure gives
    rfl
  | message message =>
    cases Access.eq_of_may_give_pure gives
    rfl
  | close =>
    obtain ⟨released, release, gives⟩ := Access.may_give_bind _ gives
    cases Access.eq_of_may_give_pure gives
    exact (Access.holds_of_confined _ (Candidate.confined_release tab.candidate now)
      release).1.config

/-- A tab whose parts have valid settings. -/
structure Configured (tab : Tab) : Prop where
  election : tab.candidate.config.fault? = none
  stream : tab.subscription.Configured

/-- Every tab that can come about has valid settings, because a tab is set up only with such. -/
theorem Reached.configured {history : List TabEffect} (reached : Reached history tab) :
    tab.Configured := by
  induction reached with
  | created created =>
    obtain ⟨election, stream, rfl⟩ := of_create created
    exact ⟨election, Subscription.configured_of_create stream⟩
  | next line now input reached gives inductionHypothesis =>
    obtain ⟨inRole, -⟩ := reached.sound
    obtain ⟨⟨effects, moves, -⟩, -⟩ := inRole.responds (responds_of_perform gives)
    refine ⟨?_, inductionHypothesis.stream.moves moves⟩
    rw [config_of_perform gives]
    exact inductionHypothesis.election

/-- Before its deadlines a tab does nothing when it is polled: it calls nobody, tells nobody and
stays as it is. -/
theorem poll_of_undue (line : Line) (undue : Instant.isDue tab.nextDeadline now = false) :
    tab.poll line now = pure ⟨tab, []⟩ := by
  rw [nextDeadline, Instant.is_due_earliest, Bool.or_eq_false_iff] at undue
  obtain ⟨election, stream⟩ := undue
  have elected : tab.elect line now (·.poll now) = pure ⟨tab, []⟩ := by
    unfold elect
    dsimp only
    rw [Candidate.poll_of_undue election]
    rfl
  have subscribed : tab.subscribe (Subscription.poll line now) now = ⟨tab, []⟩ := by
    rw [subscribe, Subscription.poll_of_undue line stream]
    rfl
  unfold poll
  rw [elected]
  exact congrArg (pure : Result → Access Result) subscribed

/-- After a poll no deadline of a tab has passed.

Proof: the candidate has none that has passed when its part of the poll is done, and the
subscription, which comes last, has none either, even if it was just started. -/
theorem poll_undue (inRole : tab.InRole) (configured : tab.Configured) (inside : now < Instant.last)
    (gives : Access.MayGive outcome (tab.poll line now)) :
    Instant.isDue outcome.state.nextDeadline now = false := by
  obtain ⟨elected, election, gives⟩ := Access.may_give_bind _ gives
  obtain ⟨result, reached, same⟩ := candidate_of_elect (·.poll now) election
  have elects := elects_of_elect (·.poll now) (fun _ => Candidate.reports_of_poll) election
  obtain ⟨⟨effects, moves, -⟩, after⟩ := inRole.elects elects
  cases Access.eq_of_may_give_pure gives
  rw [nextDeadline, Instant.is_due_earliest, Bool.or_eq_false_iff]
  constructor
  · show Instant.isDue elected.state.candidate.nextDeadline now = false
    rw [same]
    exact Candidate.poll_leaves_undue configured.election inside reached
  · exact Subscription.poll_undue line after.coherent (configured.stream.moves moves) inside

/-- A tab that sleeps until its next deadline has passed, is polled, and sleeps again, with the
instants at which it wakes up. Where it has no deadline, it sleeps on. -/
inductive Wakes : Tab → List Instant → Prop
  | sleeps (tab : Tab) : Wakes tab []
  | wakes {tab : Tab} {outcome : Result} {deadline : Instant} {later : List Instant} (line : Line)
    (now : Instant) : tab.nextDeadline = some deadline → deadline ≤ now → now < Instant.last →
    Access.MayGive outcome (tab.poll line now) → Wakes outcome.state later →
    Wakes tab (now :: later)

/-- A tab that has nothing to do at an instant wakes up after it, and at every later time after
that. -/
theorem Wakes.after {history : List TabEffect} {instants : List Instant}
    (wakes : Wakes tab instants) (reached : Reached history tab) {earlier : Instant}
    (undue : Instant.isDue tab.nextDeadline earlier = false) :
    ∀ instant ∈ instants, earlier < instant := by
  induction wakes generalizing history earlier with
  | sleeps tab => exact List.forall_mem_nil _
  | wakes line now set passed inside gives later inductionHypothesis =>
    have ahead := (Instant.is_due_eq_false_iff _ _).mp undue _ set
    have first := Int.lt_of_lt_of_le ahead passed
    have settled := poll_undue reached.sound.1 reached.configured inside gives
    have others := inductionHypothesis (reached.next line now .deadline gives) settled
    refine List.forall_mem_cons.mpr ⟨first, ?_⟩
    intro instant there
    exact Int.lt_trans first (others instant there)

/-- A tab that wakes up to be polled does so at later and later instants, because every poll leaves
only deadlines that lie ahead. -/
theorem Wakes.in_order {history : List TabEffect} {instants : List Instant}
    (wakes : Wakes tab instants) (reached : Reached history tab) : instants.Pairwise (· < ·) := by
  induction wakes generalizing history with
  | sleeps tab => exact .nil
  | wakes line now set passed inside gives later inductionHypothesis =>
    have onward := reached.next line now .deadline gives
    have settled := poll_undue reached.sound.1 reached.configured inside gives
    exact .cons (later.after onward settled) (inductionHypothesis onward)

/-- Whatever a tab went through, before the end of the calendar it can rely on its next deadline.
While that is not reached, a poll does nothing. After a poll, whatever the storage and the network
answered, there is none or it lies ahead, so a second poll at the same instant does nothing. And a
tab that sleeps until its deadlines wakes up at later and later instants. -/
theorem deadlines_complete {history : List TabEffect} (reached : Reached history tab)
    (inside : now < Instant.last) :
    (∀ line, (∀ deadline, tab.nextDeadline = some deadline → now < deadline) →
      tab.poll line now = pure ⟨tab, []⟩) ∧
    (∀ line outcome, Access.MayGive outcome (tab.poll line now) →
      (∀ deadline, outcome.state.nextDeadline = some deadline → now < deadline) ∧
      ∀ line, outcome.state.poll line now = pure ⟨outcome.state, []⟩) ∧
    ∀ instants, Wakes tab instants → instants.Pairwise (· < ·) := by
  refine ⟨?_, ?_, ?_⟩
  · intro line ahead
    exact poll_of_undue line ((Instant.is_due_eq_false_iff _ _).mpr ahead)
  · intro line outcome gives
    have undue := poll_undue reached.sound.1 reached.configured inside gives
    exact ⟨(Instant.is_due_eq_false_iff _ _).mp undue, fun line => poll_of_undue line undue⟩
  · intro instants wakes
    exact wakes.in_order reached

/-- A renewal, a look at the lease, a further attempt to connect and a warning are all due at once,
while no text can be stored and every attempt is refused. One poll settles them all until the next
attempt. -/
theorem four_deadlines_at_once :
    let refusing : Line := { accepting := false }
    let now := Instant.epoch.after (.ofMilliseconds 10000)
    ∃ history tab, Reached history tab ∧ now < Instant.last ∧
      [tab.candidate.renewAt, tab.candidate.checkAt, tab.subscription.reconnectAt,
        tab.subscription.warningAt].all (fun deadline => Instant.isDue deadline now) = true ∧
      ∃ polled, Access.MayGive polled (tab.poll refusing now) ∧
        polled.state.nextDeadline = some (Instant.epoch.after (.ofMilliseconds 12000)) ∧
        polled.state.poll refusing now = pure ⟨polled.state, []⟩ := by
  intro refusing now
  let fresh : Tab := { candidate := { tabId := "a", config := {} }, subscription := .create {}
                       relay := { sender := "a", hasChannel := true } }
  have created : Tab.create "a" {} true = .ok fresh := rfl
  let tab := (fresh.live refusing [({}, .epoch, .start)]).state
  have reached := (Reached.created created).live refusing [({}, .epoch, .start)]
  let polled := (Access.run SharedStore.storage { readOnly := true } (tab.poll refusing now)).1
  have gives : Access.MayGive polled (tab.poll refusing now) := Access.run_may_give _ _ _
  have inside : now < Instant.last := by decide
  have due : [tab.candidate.renewAt, tab.candidate.checkAt, tab.subscription.reconnectAt,
      tab.subscription.warningAt].all (fun deadline => Instant.isDue deadline now) = true := by
    decide +kernel
  have next : polled.state.nextDeadline = some (Instant.epoch.after (.ofMilliseconds 12000)) := by
    decide +kernel
  obtain ⟨-, after, -⟩ := deadlines_complete reached inside
  obtain ⟨-, idle⟩ := after refusing polled gives
  exact ⟨_, tab, reached, inside, due, polled, gives, next, idle refusing⟩

end Tab

end LiveTabs

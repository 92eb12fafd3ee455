import LiveTabs.Proofs.Lease.FreshLease
import LiveTabs.Proofs.Lease.ReportedRole
import LiveTabs.Proofs.RosterView

/-!
# Succession

When the holder of the lease is gone without a word, its lease grows stale and a follower takes it.
A follower looks at the lease at intervals, whatever their phase. Looks up to the end of the time to
live find the lease fresh and leave it. The first look after that takes it, and comes at most one
interval later. `follower_takes_over` says so of a follower that is polled at its deadlines, while
other things may happen that leave the lease as it is.
-/

namespace LiveTabs

namespace Candidate

/-- Whether a candidate looks at the lease at regular intervals after an operation: it starts to
when it is initialised, and stops when it is released. -/
def Action.keepsLooking (action : Candidate.Action) (before : Bool) : Bool :=
  match action with
  | .init _ => true
  | .release => false
  | _ => before

/-- A candidate as it may be at a time: it was set up and has done any operations since, on a clock
that does not go back, whatever its storage answered. The flag says whether it was initialised, and
not released since. -/
inductive Lived : Instant → Bool → Candidate → Prop
  | created {tabId : String} {config : LeaderConfig} {candidate : Candidate} (now : Instant) :
    create tabId config = .ok candidate → Lived now false candidate
  | aged {now later : Instant} {looks : Bool} {candidate : Candidate} :
    Lived now looks candidate → now ≤ later → Lived later looks candidate
  | acted {now : Instant} {looks : Bool} {candidate : Candidate} {action : Candidate.Action}
    {result : Candidate × Option Role} :
    Lived now looks candidate → action.IsAt now → Access.MayGive result (candidate.act action) →
    Lived now (action.keepsLooking looks) result.1

variable {candidate : Candidate} {now check : Instant} {text : Option String} {lease : Lease}

/-- Whatever its storage answered, a candidate has valid settings and is well timed. -/
theorem Lived.sound {looks : Bool} (lived : candidate.Lived now looks) :
    candidate.config.fault? = none ∧ candidate.WellTimed now := by
  induction lived with
  | created now created =>
    obtain ⟨valid, rfl⟩ := of_create created
    exact ⟨valid, well_timed_of_new _ _ _⟩
  | aged lived forward inductionHypothesis =>
    exact ⟨inductionHypothesis.1, inductionHypothesis.2.later forward⟩
  | acted lived atNow gives inductionHypothesis =>
    obtain ⟨same, timed⟩ := Access.holds_of_confined _ (confined_act _ atNow) gives
    exact ⟨same.config ▸ inductionHypothesis.1, timed inductionHypothesis.2⟩

/-- A decision leaves the time of the next regular look, whatever is read and written. -/
theorem confined_decide_check (candidate : Candidate) (now : Instant) :
    Access.Confined candidate.config.leaseKey
      (fun result => result.1.checkAt = candidate.checkAt) (candidate.decide now) := by
  have acquires : Access.Confined candidate.config.leaseKey
      (fun result => result.1.checkAt = candidate.checkAt) (candidate.acquire now) := by
    refine ⟨rfl, ?_⟩
    rintro (error | written) <;> rfl
  refine Access.confined_if_supported (Access.confined_bind _ _ (confined_read _ ?_)) rfl
  rintro (error | _ | lease)
  · rfl
  · exact acquires
  · dsimp only
    split
    · exact acquires
    split
    · split <;> rfl
    · rfl

/-- So does an evaluation. -/
theorem check_of_evaluate (candidate : Candidate) {result : Candidate × Option Role}
    (gives : Access.MayGive result (candidate.evaluate now)) :
    result.1.checkAt = candidate.checkAt := by
  obtain ⟨⟨decided, role⟩, decision, gives⟩ := Access.may_give_bind _ gives
  cases Access.eq_of_may_give_pure gives
  have kept := Access.holds_of_confined _ (candidate.confined_decide_check now) decision
  exact kept

/-- So does a renewal. -/
theorem check_of_renew {renewed : Candidate}
    (gives : Access.MayGive renewed (candidate.renew now)) :
    renewed.checkAt = candidate.checkAt := by
  obtain ⟨answer, -, gives⟩ := Access.may_give_bind _ gives
  cases answer with
  | error fault =>
    cases Access.eq_of_may_give_pure gives
    rfl
  | ok lease =>
    dsimp only at gives
    split at gives
    · obtain ⟨evaluated, evaluation, gives⟩ := Access.may_give_bind _ gives
      cases Access.eq_of_may_give_pure gives
      exact check_of_evaluate candidate.disarmRenewal evaluation
    · obtain ⟨-, -, gives⟩ := Access.may_give_bind _ gives
      cases Access.eq_of_may_give_pure gives
      rfl

/-- A regular look sets the time of the next one, and without one that is due the time stays. -/
theorem looks_after_check {before : Option Role} {result : Candidate × Option Role}
    (looks : candidate.checkAt ≠ none)
    (gives : Access.MayGive result
      (if Instant.isDue candidate.checkAt now then do
          let checked ← candidate.check now
          pure (checked, changedRole before checked.role)
        else pure (candidate, changedRole before candidate.role))) :
    result.1.checkAt ≠ none := by
  split at gives
  · obtain ⟨checked, look, gives⟩ := Access.may_give_bind _ gives
    obtain ⟨evaluated, evaluation, looked⟩ := Access.may_give_bind _ look
    cases Access.eq_of_may_give_pure gives
    cases Access.eq_of_may_give_pure looked
    rw [check_of_evaluate (candidate.armCheck now) evaluation]
    exact Option.some_ne_none _
  · cases Access.eq_of_may_give_pure gives
    exact looks

/-- A poll leaves the time of a look set if one was: a look that is due sets the next one before
anything can fail. -/
theorem looks_after_poll {result : Candidate × Option Role} (looks : candidate.checkAt ≠ none)
    (gives : Access.MayGive result (candidate.poll now)) : result.1.checkAt ≠ none := by
  unfold poll at gives
  split at gives
  · obtain ⟨renewed, renewal, gives⟩ := Access.may_give_bind _ gives
    exact looks_after_check (check_of_renew renewal ▸ looks) gives
  · exact looks_after_check looks gives

/-- Only a release ends the regular looks. So a follower that has begun to watch goes on
watching. -/
theorem looks_after_act {action : Candidate.Action} {before : Bool}
    {result : Candidate × Option Role} (looked : before = true → candidate.checkAt ≠ none)
    (gives : Access.MayGive result (candidate.act action))
    (keeps : action.keepsLooking before = true) : result.1.checkAt ≠ none := by
  cases action with
  | init now =>
    rw [check_of_evaluate (candidate.armCheck now) gives]
    exact Option.some_ne_none _
  | evaluate now =>
    rw [check_of_evaluate candidate gives]
    exact looked keeps
  | poll now => exact looks_after_poll (looked keeps) gives
  | noticeChange now key =>
    simp only [act, noticeChange] at gives
    split at gives
    · cases Access.eq_of_may_give_pure gives
      exact looked keeps
    · rw [check_of_evaluate candidate gives]
      exact looked keeps
  | release => cases keeps

/-- So a candidate that was initialised, and not released since, waits for its next look. -/
theorem Lived.looks {looks : Bool} (lived : candidate.Lived now looks) :
    looks = true → candidate.checkAt ≠ none := by
  induction lived with
  | created now created => nofun
  | aged lived forward inductionHypothesis => exact inductionHypothesis
  | acted lived atNow gives inductionHypothesis =>
    exact looks_after_act inductionHypothesis gives

/-- A missing or stale lease is taken, and its renewal is set. -/
theorem looked_vacant (candidate : Candidate)
    (vacant : ∀ lease, Lease.held text = some lease → lease.acquiredAt.nanoseconds +
      candidate.config.leaseTtl.nanoseconds < now.nanoseconds) :
    candidate.looked now text =
      ({ candidate.armRenewal now with role := some .leader },
        some (candidate.claim now).render) := by
  obtain ⟨-, took⟩ | ⟨lease, held, fresh, -⟩ := candidate.looked_cases now text
  · exact took
  · have stale := vacant lease held
    omega

/-- A follower that is going to look at the lease at a given time. -/
structure Watches (check : Instant) (candidate : Candidate) : Prop where
  follows : candidate.role = some .follower
  check : candidate.checkAt = some check
  renewal : candidate.renewAt = none

/-- That time is all that a watching follower waits for, so to poll it at its deadlines is to poll
it at its looks. -/
theorem Watches.next_deadline (watches : candidate.Watches check) :
    candidate.nextDeadline = some check := by
  rw [nextDeadline, watches.check, watches.renewal]
  rfl

/-- A watching follower that is polled at its time looks at the lease, and sets the time of the next
look. -/
theorem Watches.polled_eq (watches : candidate.Watches check) (text : Option String) :
    candidate.polled check text = (candidate.armCheck check).looked check text := by
  have due : Instant.isDue candidate.checkAt check = true := by
    rw [watches.check]
    exact decide_eq_true (Int.le_refl _)
  rw [polled, polledRenewal, watches.renewal]
  exact if_pos due

/-- As long as the lease of another tab is fresh, the follower leaves it and watches on. -/
theorem Watches.polled_fresh (watches : candidate.Watches check)
    (held : Lease.held text = some lease) (foreign : lease.owner ≠ candidate.tabId)
    (fresh : check.nanoseconds ≤
      lease.acquiredAt.nanoseconds + candidate.config.leaseTtl.nanoseconds) :
    candidate.polled check text = (candidate.armCheck check, text) := by
  rw [watches.polled_eq, looked_foreign (candidate.armCheck check) held fresh foreign]
  obtain ⟨tabId, config, role, renewAt, checkAt⟩ := candidate
  cases watches.follows
  cases watches.renewal
  rfl

/-- Once the lease is stale, the follower takes it, with the time of its look as the time of the
lease. -/
theorem Watches.polled_stale (watches : candidate.Watches check)
    (held : Lease.held text = some lease)
    (stale : lease.acquiredAt.nanoseconds + candidate.config.leaseTtl.nanoseconds <
      check.nanoseconds) :
    candidate.polled check text =
      ({ (candidate.armCheck check).armRenewal check with role := some .leader },
        some (candidate.claim check).render) := by
  rw [watches.polled_eq, looked_vacant (candidate.armCheck check)]
  · rfl
  · intro other again
    cases held.symm.trans again
    exact stale

end Candidate

namespace Election

/-- A tab is polled at its next deadline: the time, what it reports, and the election afterwards. -/
def pollNext (election : Election) (name : String) :
    Option (Instant × Option Role × Election) := do
  let contender ← election.contenders.get? name
  let deadline ← contender.candidate.nextDeadline
  let (reported, _, next) ← election.act name (.poll deadline)
  some (deadline, reported, next)

/-- A tab is polled at its deadlines a number of times, and before each poll other things happen.
Gives the time and the report of each poll, and the election in the end. -/
def keepPolling (name : String) : Nat → (Nat → Election → Election) → Election →
    Option (List (Instant × Option Role) × Election)
  | 0, _, election => some ([], election)
  | count + 1, meanwhile, election => do
    let (deadline, reported, next) ← (meanwhile 0 election).pollNext name
    let (later, last) ← keepPolling name count (fun turn => meanwhile (turn + 1)) next
    some ((deadline, reported) :: later, last)

/-- What happens leaves a tab and the text under a key as they are, and the store working. -/
def Leaves (key name : String) (happens : Election → Election) : Prop :=
  ∀ election, election.store.Works key →
    (happens election).contenders.get? name = election.contenders.get? name ∧
      (happens election).store.Works key ∧
      (happens election).store.peek key = election.store.peek key

/-- A tab watches the lease of another tab on a working store. -/
structure OnWatch (name : String) (lease : Lease) (check : Instant) (candidate : Candidate)
    (election : Election) : Prop where
  found : election.contenders.get? name = some ⟨candidate, true⟩
  watches : candidate.Watches check
  works : election.store.Works candidate.config.leaseKey
  held : Lease.held (election.store.peek candidate.config.leaseKey) = some lease
  foreign : lease.owner ≠ candidate.tabId

variable {election : Election} {name : String} {lease : Lease} {check : Instant}
  {candidate : Candidate}

/-- The tab stays on watch while other things happen that leave its candidate and the lease as they
are. -/
theorem OnWatch.meanwhile (watch : election.OnWatch name lease check candidate)
    {happens : Election → Election} (leaves : Leaves candidate.config.leaseKey name happens) :
    (happens election).OnWatch name lease check candidate := by
  obtain ⟨same, works, text⟩ := leaves election watch.works
  exact ⟨same.trans watch.found, watch.watches, works, text ▸ watch.held, watch.foreign⟩

/-- The next poll of a tab on watch is at its time. It ends as the candidate responds, and reports
the role that this leaves, if it is a new one. -/
theorem OnWatch.poll_next (watch : election.OnWatch name lease check candidate) :
    ∃ after reported next, election.pollNext name = some (check, reported, next) ∧
      candidate.Reports (after, reported) ∧
      next.contenders.get? name = some ⟨after, true⟩ ∧
      next.store.Works candidate.config.leaseKey ∧
      (after, next.store.peek candidate.config.leaseKey) =
        candidate.polled check (election.store.peek candidate.config.leaseKey) := by
  let program := candidate.act (.poll check)
  let ended := Access.run SharedStore.storage election.store program
  have atCheck : (Candidate.Action.poll check).IsAt check := rfl
  obtain ⟨result, left, works⟩ := Candidate.run_act (SharedStore.serves candidate.config.leaseKey)
    candidate (.poll check) (candidate.confined_act atCheck) election.store watch.works
  have reports : candidate.Reports ended.1 :=
    Candidate.reports_of_poll (Access.run_may_give SharedStore.storage election.store program)
  let contenders := election.contenders.update name fun contender =>
    { contender with candidate := ended.1.1 }
  refine ⟨ended.1.1, ended.1.2, ⟨contenders, ended.2⟩, ?_, reports, ?_, works,
    Prod.ext result left⟩
  · rw [pollNext, watch.found, Option.bind_eq_bind, Option.bind_some, watch.watches.next_deadline]
    rw [Option.bind_eq_bind, Option.bind_some, act, watch.found]
    rfl
  · rw [Roster.get?_update, if_pos rfl, watch.found]
    rfl

/-- A poll that finds the lease fresh reports nothing, and leaves the tab on watch until one
interval later. -/
theorem OnWatch.poll_fresh (watch : election.OnWatch name lease check candidate)
    (fresh : check.nanoseconds ≤
      lease.acquiredAt.nanoseconds + candidate.config.leaseTtl.nanoseconds) :
    ∃ next, election.pollNext name = some (check, none, next) ∧
      next.OnWatch name lease (check.after candidate.config.safetyCheckInterval)
        (candidate.armCheck check) := by
  obtain ⟨after, reported, next, polled, reports, found, works, response⟩ := watch.poll_next
  rw [watch.watches.polled_fresh watch.held watch.foreign fresh] at response
  obtain ⟨rfl, text⟩ := Prod.mk.inj response
  have quiet : reported = none := by
    cases reports with
    | same after kept => rfl
    | changed after role taken different => exact absurd taken different
  rw [quiet] at polled
  exact ⟨next, polled, found, ⟨watch.watches.follows, rfl, watch.watches.renewal⟩, works,
    (congrArg Lease.held text).trans watch.held, watch.foreign⟩

/-- A poll that finds the lease stale reports that the tab leads, and leaves a lease of its own. -/
theorem OnWatch.poll_stale (watch : election.OnWatch name lease check candidate)
    (stale : lease.acquiredAt.nanoseconds + candidate.config.leaseTtl.nanoseconds <
      check.nanoseconds) :
    ∃ next, election.pollNext name = some (check, some .leader, next) ∧
      next.store.peek candidate.config.leaseKey = some (Lease.mk candidate.tabId check).render := by
  obtain ⟨after, reported, next, polled, reports, -, -, response⟩ := watch.poll_next
  rw [watch.watches.polled_stale watch.held stale] at response
  obtain ⟨rfl, text⟩ := Prod.mk.inj response
  have leads : reported = some .leader := by
    cases reports with
    | same after kept =>
      rw [watch.watches.follows] at kept
      cases kept
    | changed after role taken different => exact taken.symm
  rw [leads] at polled
  exact ⟨next, polled, text⟩

/-- A first poll at a deadline, and the later ones, which begin where the first one ends. -/
theorem keep_polling_succ {meanwhile : Nat → Election → Election} {reported : Option Role}
    {next : Election} (polled : (meanwhile 0 election).pollNext name = some (check, reported, next))
    (count : Nat) :
    keepPolling name (count + 1) meanwhile election =
      (keepPolling name count (fun turn => meanwhile (turn + 1)) next).map
        fun (later, last) => ((check, reported) :: later, last) := by
  simp only [keepPolling, polled, Option.bind_eq_bind, Option.bind_some]
  cases keepPolling name count (fun turn => meanwhile (turn + 1)) next <;> rfl

/-- A tab takes over from a lease: its polls up to the end of the time to live report nothing, and
the next one, at most one interval after that end, reports that the tab leads and leaves a lease of
its own. -/
def TakesOver (name : String) (lease : Lease) (candidate : Candidate)
    (meanwhile : Nat → Election → Election) (election : Election) : Prop :=
  let expiry := lease.acquiredAt.nanoseconds + candidate.config.leaseTtl.nanoseconds
  ∃ quiet time last,
    keepPolling name (quiet.length + 1) meanwhile election =
      some (quiet ++ [(time, some .leader)], last) ∧
    (∀ poll ∈ quiet, poll.1.nanoseconds ≤ expiry ∧ poll.2 = none) ∧
    expiry < time.nanoseconds ∧
    time.nanoseconds ≤ expiry + candidate.config.safetyCheckInterval.nanoseconds ∧
    last.store.peek candidate.config.leaseKey = some (Lease.mk candidate.tabId time).render

/-- A tab on watch takes over at once when its time is after the lease has grown stale. -/
theorem OnWatch.takes_over_now (watch : election.OnWatch name lease check candidate)
    {meanwhile : Nat → Election → Election}
    (leaves : Leaves candidate.config.leaseKey name (meanwhile 0))
    (stale : lease.acquiredAt.nanoseconds + candidate.config.leaseTtl.nanoseconds <
      check.nanoseconds)
    (soon : check.nanoseconds ≤ lease.acquiredAt.nanoseconds +
      candidate.config.leaseTtl.nanoseconds + candidate.config.safetyCheckInterval.nanoseconds) :
    election.TakesOver name lease candidate meanwhile := by
  obtain ⟨next, polled, text⟩ := (watch.meanwhile leaves).poll_stale stale
  refine ⟨[], check, next, ?_, List.forall_mem_nil _, stale, soon, text⟩
  rw [List.length_nil, keep_polling_succ polled]
  rfl

/-- A tab on watch takes over. The induction is on a bound of the time that is left until the lease
grows stale: each poll before that shortens it by one interval. -/
theorem OnWatch.takes_over (bound : Nat) (watch : election.OnWatch name lease check candidate)
    {meanwhile : Nat → Election → Election}
    (leaves : ∀ turn, Leaves candidate.config.leaseKey name (meanwhile turn))
    (valid : candidate.config.fault? = none)
    (inside : lease.acquiredAt.nanoseconds + candidate.config.leaseTtl.nanoseconds +
      candidate.config.safetyCheckInterval.nanoseconds ≤ Instant.lastNanosecond)
    (soon : check.nanoseconds ≤ lease.acquiredAt.nanoseconds +
      candidate.config.leaseTtl.nanoseconds + candidate.config.safetyCheckInterval.nanoseconds)
    (left : lease.acquiredAt.nanoseconds + candidate.config.leaseTtl.nanoseconds <
      check.nanoseconds + bound) :
    election.TakesOver name lease candidate meanwhile := by
  induction bound generalizing election check candidate meanwhile with
  | zero => exact watch.takes_over_now (leaves 0) (by omega) soon
  | succ bound inductionHypothesis =>
    by_cases stale : lease.acquiredAt.nanoseconds + candidate.config.leaseTtl.nanoseconds <
      check.nanoseconds
    · exact watch.takes_over_now (leaves 0) stale soon
    -- The poll leaves the lease and sets the next look one interval later, so less time is left.
    have fresh := Int.not_lt.mp stale
    obtain ⟨next, polled, watching⟩ := (watch.meanwhile (leaves 0)).poll_fresh fresh
    obtain ⟨-, -, positive⟩ := LeaderConfig.intervals_of_valid valid
    have turn : (check.after candidate.config.safetyCheckInterval).nanoseconds =
        check.nanoseconds + candidate.config.safetyCheckInterval.nanoseconds :=
      Instant.after_inside (by omega)
    obtain ⟨quiet, time, last, run, kept, taken⟩ :
        next.TakesOver name lease (candidate.armCheck check) fun turn => meanwhile (turn + 1) := by
      refine inductionHypothesis watching (fun turn => leaves (turn + 1)) valid inside ?_ ?_
      · rw [turn]
        exact Int.add_le_add_right fresh _
      · rw [turn]
        show lease.acquiredAt.nanoseconds + (candidate.config.leaseTtl.nanoseconds : Int) < _
        omega
    refine ⟨(check, none) :: quiet, time, last, ?_, ?_, taken⟩
    · rw [List.length_cons, keep_polling_succ polled, run]
      rfl
    · exact List.forall_mem_cons.mpr ⟨⟨fresh, rfl⟩, kept⟩

/-- A follower that was initialised and is polled at its deadlines on a working store replaces the
holder of a lease that nobody renews: none of its polls up to the end of the time to live reports a
change, and one of them, at most one interval of regular looks after that end, reports that the tab
leads and leaves a lease of its own, taken at that time.

Proof: the follower is on watch, its next look is at most one interval ahead, and the lease is still
fresh, so the look comes at most one interval after the lease has grown stale. -/
theorem follower_takes_over {election : Election} {name : String} {candidate : Candidate}
    {lease : Lease} {now : Instant} {meanwhile : Nat → Election → Election}
    (lived : candidate.Lived now true) (follows : candidate.role = some .follower)
    (found : election.contenders.get? name = some ⟨candidate, true⟩)
    (works : election.store.Works candidate.config.leaseKey)
    (held : Lease.held (election.store.peek candidate.config.leaseKey) = some lease)
    (foreign : lease.owner ≠ candidate.tabId)
    (fresh : lease.isStale now candidate.config.leaseTtl = false)
    (inside : lease.acquiredAt.nanoseconds + candidate.config.leaseTtl.nanoseconds +
      candidate.config.safetyCheckInterval.nanoseconds ≤ Instant.lastNanosecond)
    (leaves : ∀ turn, Leaves candidate.config.leaseKey name (meanwhile turn)) :
    election.TakesOver name lease candidate meanwhile := by
  obtain ⟨valid, timed⟩ := lived.sound
  obtain ⟨check, set⟩ := Option.ne_none_iff_exists'.mp (lived.looks rfl)
  have unarmed := timed.unarmed (by simp [follows])
  have bound := timed.bounded.check check set
  have still : now.nanoseconds ≤
      lease.acquiredAt.nanoseconds + candidate.config.leaseTtl.nanoseconds := by
    have notStale := mt (Lease.is_stale_iff lease now candidate.config.leaseTtl).mpr
      (by simp [fresh])
    omega
  let left := (lease.acquiredAt.nanoseconds + candidate.config.leaseTtl.nanoseconds + 1 -
    check.nanoseconds).toNat
  have watch : election.OnWatch name lease check candidate :=
    ⟨found, ⟨follows, set, unarmed⟩, works, held, foreign⟩
  exact watch.takes_over left leaves valid inside (by omega) (by omega)

/-- A tab drops out at any time. Another one on the same store is not concerned. -/
theorem leaves_drop_out (key : String) {name other : String} (apart : name ≠ other) :
    Leaves key name fun election => election.dropOut other := by
  intro election works
  refine ⟨?_, works, rfl⟩
  show (election.contenders.remove other).get? name = election.contenders.get? name
  rw [Roster.get?_remove, if_neg apart]

/-- A tab takes the lease, and another one joins half a second later and follows. -/
def joinedLater : Option Election := do
  let opened ← (({} : Election).join "a" "a" {} true).toOption
  let (_, _, led) ← opened.act "a" (.init .epoch)
  let joined ← (led.join "b" "b" {} true).toOption
  let (_, _, both) ← joined.act "b" (.init (.sinceEpoch 500))
  some both

/-- The tab that joined later. -/
def laterTab : Candidate :=
  { tabId := "b", config := {}, role := some .follower, checkAt := some (.sinceEpoch 8500) }

/-- When the first tab crashes, the other one replaces it. -/
theorem crashed_leader_is_replaced :
    ∃ election, joinedLater = some election ∧
      election.TakesOver "b" ⟨"a", .epoch⟩ laterTab fun _ election => election.dropOut "a" := by
  have course : joinedLater.any (fun election =>
      decide ((election.contenders.get? "b").map (·.candidate) = some laterTab ∧
        (election.contenders.get? "b").map (·.hasStorage) = some true ∧
        election.store.off = false ∧ election.store.readOnly = false ∧
        election.store.memory.disabled = false ∧ election.store.pinned = [] ∧
        Lease.held (election.store.peek "tabsync:leader") = some ⟨"a", .epoch⟩)) = true := by
    decide +kernel
  obtain ⟨election, ran, ended⟩ := (Option.any_eq_true _ _).mp course
  obtain ⟨later, equipped, on, writable, enabled, free, held⟩ := of_decide_eq_true ended
  have found : election.contenders.get? "b" = some ⟨laterTab, true⟩ := by
    obtain ⟨⟨candidate, hasStorage⟩, there, same⟩ := Option.map_eq_some_iff.mp later
    rw [there] at equipped ⊢
    exact congrArg some (congr (congrArg Contender.mk same) (Option.some.inj equipped))
  have works : election.store.Works "tabsync:leader" := ⟨on, writable, enabled, by simp [free]⟩
  have created : Candidate.create "b" {} = .ok { tabId := "b", config := {} } := rfl
  have looked : (Access.run Storage.singleText (some (Lease.mk "a" .epoch).render)
      (Candidate.act { tabId := "b", config := {} } (.init (.sinceEpoch 500)))).1 =
        (laterTab, some .follower) := by
    decide +kernel
  have gives : Access.MayGive (laterTab, some .follower)
      (Candidate.act { tabId := "b", config := {} } (.init (.sinceEpoch 500))) :=
    looked ▸ Access.run_may_give _ _ _
  have atTime : (Candidate.Action.init (.sinceEpoch 500)).IsAt (.sinceEpoch 500) := rfl
  have lived : laterTab.Lived (.sinceEpoch 500) true := .acted (.created _ created) atTime gives
  exact ⟨election, ran, follower_takes_over lived rfl found works held (by decide) (by decide)
    (by decide) fun _ => leaves_drop_out _ (by decide)⟩

end Election

end LiveTabs

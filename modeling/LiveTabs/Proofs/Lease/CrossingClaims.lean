import LiveTabs.Proofs.Lease.Recovery

/-!
# Claims that cross

Tabs that look at the lease at the same time, before any of them has written, find nobody's lease
and all claim it, so all of them lead. The claim that is written last is the one that is stored. Its
tab reigns from then on, and every other tab follows as soon as it looks, which it does at its first
renewal at the latest. `last_claim_prevails` says so without any notices between the tabs.
-/

namespace LiveTabs

namespace SharedStore

/-- A store that works but for reads of a key, which give a snapshot. -/
structure Frozen (key : String) (snapshot : Option String) (store : SharedStore) : Prop where
  works : (store.apply (.unpin key)).Works key
  reads : store.pinned.find? (fun pin => pin.1 == key) = some (key, snapshot)

variable {key : String} {snapshot : Option String} {store : SharedStore}

/-- Reads that are pinned give the present text, whatever is written later. Claims that cross are
made on such a store. -/
theorem Works.pin (works : store.Works key) :
    (store.apply (.pin key)).Frozen key (store.peek key) := by
  refine ⟨⟨works.on, works.writable, works.enabled, ?_⟩, ?_⟩
  · intro pin listed
    simpa using (List.mem_filter.mp listed).2
  · simp [apply]

/-- Until its reads are free again, a store reads the snapshot, whatever is written. -/
theorem Frozen.answers (frozen : store.Frozen key snapshot) (value : String) :
    storage.supported store = true ∧ storage.get store key = .ok snapshot ∧
      ∃ after, storage.set store key value = (.ok (), after) ∧ after.Frozen key snapshot ∧
        after.peek key = some value := by
  obtain ⟨⟨on, writable, enabled, free⟩, reads⟩ := frozen
  have on : store.off = false := on
  have writable : store.readOnly = false := writable
  have enabled : store.memory.disabled = false := enabled
  refine ⟨by simp [storage, on], ?_, { store with memory := (store.memory.set key value).2 }, ?_,
    ⟨⟨on, writable, ?_, free⟩, reads⟩, ?_⟩
  · simp [storage, get, on, MemoryStore.get, enabled, reads]
  · simp [storage, change, on, writable, MemoryStore.set, enabled]
  · simp [apply, MemoryStore.set, enabled]
  · simp [peek, MemoryStore.set, enabled, MemoryStore.peek]

end SharedStore

namespace Candidate

variable {snapshot : Option String} {store : SharedStore} {now : Instant}

/-- A candidate that has claimed the lease at its first look. -/
def claiming (candidate : Candidate) (now : Instant) : Candidate :=
  { (candidate.armCheck now).armRenewal now with role := some .leader }

/-- On a frozen store a decision claims the lease if the snapshot has no fresh one, even if others
have claimed it before. -/
theorem run_decide_frozen (candidate : Candidate)
    (vacant : ∀ lease, Lease.held snapshot = some lease →
      lease.isStale now candidate.config.leaseTtl = true)
    (frozen : store.Frozen candidate.config.leaseKey snapshot) :
    ∃ after, Access.run SharedStore.storage store (candidate.decide now) =
        ((candidate.armRenewal now, .leader), after) ∧
      after.Frozen candidate.config.leaseKey snapshot ∧
      after.peek candidate.config.leaseKey = some (candidate.claim now).render := by
  obtain ⟨supported, reads, after, writes, still, text⟩ :=
    frozen.answers (candidate.claim now).render
  refine ⟨after, ?_, still, text⟩
  have acquires : Access.run SharedStore.storage store (candidate.acquire now) =
      ((candidate.armRenewal now, .leader), after) := by
    rw [acquire, Access.run_bind, Lease.write, Access.setItem]
    simp only [Access.run, writes]
    rfl
  have read : Access.run SharedStore.storage store (Lease.read candidate.config.leaseKey) =
      (.ok (Lease.held snapshot), store) := by
    rw [Lease.read, Access.run_bind, Access.getItem]
    simp only [Access.run, reads]
    rfl
  rw [decide, Access.run_bind, Access.isSupported]
  simp only [Access.run, supported, if_true]
  rw [Access.run_bind, read]
  cases held : Lease.held snapshot with
  | none => exact acquires
  | some lease =>
    simp only [vacant lease held, if_true]
    exact acquires

/-- So does a first look. -/
theorem run_init_frozen (candidate : Candidate)
    (vacant : ∀ lease, Lease.held snapshot = some lease →
      lease.isStale now candidate.config.leaseTtl = true)
    (frozen : store.Frozen candidate.config.leaseKey snapshot) :
    ∃ reported after, Access.run SharedStore.storage store (candidate.act (.init now)) =
        ((candidate.claiming now, reported), after) ∧
      after.Frozen candidate.config.leaseKey snapshot ∧
      after.peek candidate.config.leaseKey = some (candidate.claim now).render := by
  obtain ⟨after, decides, still, text⟩ := (candidate.armCheck now).run_decide_frozen vacant frozen
  refine ⟨changedRole candidate.role (some .leader), after, ?_, still, text⟩
  show Access.run SharedStore.storage store ((candidate.armCheck now).evaluate now) = _
  rw [evaluate, Access.run_bind, decides]
  rfl

end Candidate

namespace Scene

/-- The scene with all reads of the lease pinned to what the store has now. -/
def frozen (config : LeaderConfig) (scene : Scene) : Scene :=
  { scene with election := scene.election.disturb (.pin config.leaseKey) }

/-- The scene with reads of the lease free again. -/
def thawed (config : LeaderConfig) (scene : Scene) : Scene :=
  { scene with election := scene.election.disturb (.unpin config.leaseKey) }

/-- The scene after tabs have taken their first look at the lease at the same time: all of them read
what the store has now, and their writes land in the order of the list. -/
def initAtOnce (config : LeaderConfig) (scene : Scene) (order : List String) : Option Scene :=
  ((scene.frozen config).run config (fun _ _ => True)
    (order.map fun tabId => .act tabId (.init scene.now))).map (thawed config)

/-- While tabs take their first look at a frozen store: those that have looked lead, and renew one
interval later, and the last of them has written the stored lease. -/
structure Claiming (config : LeaderConfig) (snapshot : Option String) (tabIds claimed : List String)
    (scene : Scene) : Prop where
  frozen : scene.election.store.Frozen config.leaseKey snapshot
  sound : (scene.thawed config).Sound config
  tabs : ∀ tabId, scene.candidate? tabId ≠ none ↔ tabId ∈ tabIds
  leads : ∀ tabId ∈ claimed, ∃ candidate, scene.candidate? tabId = some candidate ∧
    candidate.role = some .leader ∧
    candidate.renewAt = some (scene.now.after config.heartbeatInterval)
  text : ∀ tabId ∈ claimed.getLast?, scene.text config = some (Lease.mk tabId scene.now).render

variable {config : LeaderConfig} {snapshot : Option String} {tabIds claimed : List String}
  {scene next : Scene} {winner : String}

/-- Nobody has looked yet when the store is frozen, which is where the claims begin. -/
theorem claiming_of_frozen (sound : scene.Sound config) :
    (scene.frozen config).Claiming config (scene.text config) scene.election.contenders.names []
    where
  frozen := sound.works.pin
  sound := { sound with works := sound.works.pin.works }
  tabs := by
    intro tabId
    rw [Roster.mem_names_iff, ← Option.isSome_iff_exists, Option.isSome_iff_ne_none]
    exact not_congr Option.map_eq_none_iff
  leads := List.forall_mem_nil _
  text := nofun

/-- On a frozen store a tab that takes its first look claims the lease, and leaves the others as
they are. -/
theorem after_init_frozen (frozen : scene.election.store.Frozen config.leaseKey snapshot)
    (sound : (scene.thawed config).Sound config)
    (vacant : ∀ lease, Lease.held snapshot = some lease →
      lease.isStale scene.now config.leaseTtl = true) {tabId : String} {candidate : Candidate}
    (present : scene.candidate? tabId = some candidate) :
    ∃ next, scene.after? config (.act tabId (.init scene.now)) = some next ∧
      next.now = scene.now ∧ next.election.store.Frozen config.leaseKey snapshot ∧
      (next.thawed config).Sound config ∧
      next.text config = some (Lease.mk tabId scene.now).render ∧
      ∀ other, next.candidate? other =
        if other = tabId then some (candidate.claiming scene.now) else scene.candidate? other := by
  obtain ⟨contender, found, rfl⟩ := Option.map_eq_some_iff.mp present
  have atNow : (Candidate.Action.init scene.now).IsAt scene.now := rfl
  obtain ⟨tab, seen, confined⟩ := sound.ready found atNow
  have settings := tab.settings
  obtain ⟨reported, after, looked, still, text⟩ :=
    contender.candidate.run_init_frozen (settings ▸ vacant) (settings ▸ frozen)
  rw [settings] at still text
  obtain ⟨same, timed⟩ := Access.confined_run SharedStore.storage scene.election.store _ confined
  rw [looked] at same timed
  let claimant := contender.candidate.claiming scene.now
  have upholds : Candidate.Upholds contender.candidate.tabId (scene.text config) claimant
      (after.peek config.leaseKey) := by
    rw [text]
    refine contender.candidate.upholds_of_claim scene.now _ rfl ?_
    simp [claimant, Candidate.claiming]
  let contenders := scene.election.contenders.update tabId fun contender =>
    { contender with candidate := claimant }
  let next : Scene := { scene with election := ⟨contenders, after⟩ }
  -- What is sound is the thawed scene; freezing changes neither the tabs nor the text.
  obtain ⟨soundAfter, view⟩ : (next.thawed config).Sound config ∧ ∀ other,
      next.candidate? other = if other = tabId then some claimant else scene.candidate? other :=
    sound.replace present same (timed tab.timed) still.works upholds rfl
  refine ⟨next, ?_, rfl, still, soundAfter, ?_, view⟩
  · rw [after?, if_pos atNow, Election.act, found, Option.map_some, seen, looked]
    rfl
  · rw [← tab.identity]
    exact text

/-- The next tab that looks claims the lease as well, and overwrites the claim before. This is the
step from one claim to the next. -/
theorem Claiming.claim (claiming : scene.Claiming config snapshot tabIds claimed)
    (vacant : ∀ lease, Lease.held snapshot = some lease →
      lease.isStale scene.now config.leaseTtl = true) {tabId : String} (there : tabId ∈ tabIds) :
    ∃ next, scene.after? config (.act tabId (.init scene.now)) = some next ∧
      next.now = scene.now ∧ next.Claiming config snapshot tabIds (claimed ++ [tabId]) := by
  obtain ⟨candidate, present⟩ := Option.ne_none_iff_exists'.mp ((claiming.tabs tabId).mpr there)
  have settings := (claiming.sound.tabs tabId candidate present).settings
  obtain ⟨next, done, time, frozen, sound, text, view⟩ :=
    after_init_frozen claiming.frozen claiming.sound vacant present
  refine ⟨next, done, time, frozen, sound, ?_, ?_, ?_⟩
  · intro other
    rw [view]
    split
    · rename_i here
      exact ⟨fun _ => here ▸ there, fun _ => Option.some_ne_none _⟩
    · exact claiming.tabs other
  · intro other listed
    rw [view, time]
    split
    · exact ⟨candidate.claiming scene.now, rfl, rfl, settings ▸ rfl⟩
    · rename_i apart
      have before := (List.mem_append.mp listed).resolve_right (mt List.mem_singleton.mp apart)
      exact claiming.leads other before
  · intro other listed
    rw [List.getLast?_concat] at listed
    cases listed
    rw [time]
    exact text

/-- So do all tabs of a list, one after the other. -/
theorem Claiming.claim_all (claiming : scene.Claiming config snapshot tabIds claimed)
    (vacant : ∀ lease, Lease.held snapshot = some lease →
      lease.isStale scene.now config.leaseTtl = true) (order : List String)
    (there : ∀ tabId ∈ order, tabId ∈ tabIds) :
    ∃ last, scene.run config (fun _ _ => True)
        (order.map fun tabId => .act tabId (.init scene.now)) = some last ∧
      last.now = scene.now ∧ last.Claiming config snapshot tabIds (claimed ++ order) := by
  induction order generalizing scene claimed with
  | nil => exact ⟨scene, rfl, rfl, by rwa [List.append_nil]⟩
  | cons tabId rest inductionHypothesis =>
    obtain ⟨next, done, time, onward⟩ := claiming.claim vacant (there tabId List.mem_cons_self)
    obtain ⟨last, ran, still, all⟩ := inductionHypothesis onward (time ▸ vacant)
      fun other listed => there other (List.mem_cons_of_mem tabId listed)
    refine ⟨last, ?_, still.trans time, by rwa [List.append_assoc] at all⟩
    rw [List.map_cons, run, List.foldlM_cons, if_pos trivial, done, ← time]
    exact ran

/-- A tab reigns, and every other tab that leads is bound by a condition. -/
structure LeadsBeside (config : LeaderConfig) (bound : Candidate → Prop) (winner : String)
    (scene : Scene) : Prop where
  reigns : scene.Reigns config winner
  others : ∀ tabId candidate, tabId ≠ winner → scene.candidate? tabId = some candidate →
    candidate.role = some .leader → bound candidate

/-- While all tabs are attended to, nobody begins to lead beside a tab that reigns. -/
theorem LeadsBeside.after {bound : Candidate → Prop}
    (beside : scene.LeadsBeside config bound winner) {deed : Deed} (attended : Attended scene deed)
    (done : scene.after? config deed = some next) : next.LeadsBeside config bound winner := by
  refine ⟨beside.reigns.after (in_time_of_attended attended) done, ?_⟩
  intro tabId candidate apart there leads
  obtain ⟨present, -⟩ := beside.reigns.unmoved attended done apart there leads
  exact beside.others tabId candidate apart present leads

/-- So it stays over any number of deeds. -/
theorem LeadsBeside.run {bound : Candidate → Prop} {first last : Scene}
    (beside : first.LeadsBeside config bound winner) {deeds : List Deed}
    (ran : first.run config Attended deeds = some last) : last.LeadsBeside config bound winner :=
  run_keeps (LeadsBeside config bound winner)
    (fun _ _ _ beside attended done => beside.after attended done) beside deeds ran

/-- A tab that reigns with nobody beside is the only leader, whoever else takes part. -/
theorem LeadsBeside.alone (beside : scene.LeadsBeside config (fun _ => False) winner) :
    scene.leaders = [winner] := by
  obtain ⟨leader, acquired, present, punctual⟩ := beside.reigns.punctual
  obtain ⟨contender, found, rfl⟩ := Option.map_eq_some_iff.mp present
  refine Roster.those_eq_singleton beside.reigns.sound.proper found ?_ ?_
  · simp [Candidate.isLeader, punctual.leads]
  · intro other bystander there leads
    refine Decidable.byContradiction fun apart => ?_
    exact beside.others other bystander.candidate apart (candidate?_of_found there)
      (by simpa [Candidate.isLeader] using leads)

/-- Whether every tab has done what was due by a given time. -/
def DoneBy (limit : Instant) (scene : Scene) : Prop :=
  ∀ member ∈ scene.election.contenders.members,
    ∀ deadline ∈ member.2.candidate.nextDeadline, limit < deadline

instance (limit : Instant) (scene : Scene) : Decidable (scene.DoneBy limit) :=
  inferInstanceAs (Decidable (∀ member ∈ scene.election.contenders.members,
    ∀ deadline ∈ member.2.candidate.nextDeadline, limit < deadline))

/-- Once every tab has done what was due by a given time, nobody leads on to a renewal by then. -/
theorem LeadsBeside.done {limit : Instant}
    (beside : scene.LeadsBeside config
      (fun candidate => ∃ renewal, candidate.renewAt = some renewal ∧ renewal ≤ limit) winner)
    (done : scene.DoneBy limit) : scene.LeadsBeside config (fun _ => False) winner := by
  refine ⟨beside.reigns, ?_⟩
  intro tabId candidate apart present leads
  obtain ⟨renewal, set, soon⟩ := beside.others tabId candidate apart present leads
  obtain ⟨contender, found, rfl⟩ := Option.map_eq_some_iff.mp present
  have due : Instant.isDue contender.candidate.nextDeadline limit = true := by
    rw [Candidate.nextDeadline, Instant.is_due_earliest, set]
    simp [Instant.isDue, soon]
  obtain ⟨deadline, next, reached⟩ := (Instant.is_due_iff _ _).mp due
  exact Int.not_lt.mpr reached (done _ (Roster.mem_of_get? found) deadline next)

/-- When all tabs have claimed the lease, the one whose claim is stored reigns, and the others wait
for their first renewal. -/
theorem Claiming.leads_beside (claiming : scene.Claiming config snapshot tabIds claimed)
    (everyone : ∀ tabId ∈ tabIds, tabId ∈ claimed) (latest : claimed.getLast? = some winner) :
    (scene.thawed config).LeadsBeside config (fun candidate => ∃ renewal,
      candidate.renewAt = some renewal ∧ renewal ≤ scene.now.after config.heartbeatInterval)
      winner := by
  obtain ⟨leader, present, leads, renewal⟩ := claiming.leads winner (List.mem_of_getLast? latest)
  have tab := claiming.sound.tabs winner leader present
  refine ⟨⟨claiming.sound, leader, scene.now, present, leads, ?_, claiming.sound.whole, _, renewal,
    Instant.le_after _ _, ?_⟩, ?_⟩
  · rw [Candidate.claim, tab.identity]
    exact claiming.text winner latest
  · rw [tab.settings]
    exact Instant.after_le _ _
  · intro tabId candidate _ there _
    have here : scene.candidate? tabId = some candidate := there
    have known := (claiming.tabs tabId).mp (here ▸ Option.some_ne_none candidate)
    obtain ⟨other, same, -, waits⟩ := claiming.leads tabId (everyone tabId known)
    cases same.symm.trans here
    exact ⟨_, waits, Int.le_refl _⟩

/-- All tabs on a store take their first look at the lease at the same time, when no fresh lease is
stored, so all of them claim it and lead, and their writes land in any order. From then on no call
fails and all tabs are attended to. Once everybody has done what was due within one interval of
renewal, the tab whose write landed last is the only leader, and so it is ever after.

Proof: the tab whose claim is stored reigns. Whoever else leads has not looked yet and waits for its
first renewal, and nobody begins to lead beside a tab that reigns. -/
theorem last_claim_prevails {config : LeaderConfig} {scene : Scene} {order : List String}
    {winner : String} (reachable : scene.Reachable config)
    (vacant : ∀ lease, Lease.held (scene.text config) = some lease →
      lease.isStale scene.now config.leaseTtl = true)
    (everyone : order.Perm scene.election.contenders.names)
    (latest : order.getLast? = some winner) :
    ∃ first, scene.initAtOnce config order = some first ∧
      (∀ tabId ∈ order, first.role? tabId = some .leader) ∧
      ∀ deeds middle, first.run config Attended deeds = some middle →
        middle.DoneBy (scene.now.after config.heartbeatInterval) →
        ∀ later last, middle.run config Attended later = some last → last.leaders = [winner] := by
  obtain ⟨claimed, ran, time, claiming⟩ := (claiming_of_frozen reachable.sound).claim_all vacant
    order fun tabId listed => everyone.mem_iff.mp listed
  have beside := claiming.leads_beside (fun tabId listed => everyone.mem_iff.mpr listed) latest
  refine ⟨claimed.thawed config, ?_, ?_, ?_⟩
  · rw [initAtOnce, show scene.now = (scene.frozen config).now from rfl, ran]
    rfl
  · intro tabId listed
    obtain ⟨candidate, present, leads, -⟩ := claiming.leads tabId listed
    have here : (claimed.thawed config).candidate? tabId = some candidate := present
    rw [role?, here]
    exact leads
  · intro deeds middle ranOn done later last ranLater
    exact ((beside.run ranOn).done (time ▸ done)).run ranLater |>.alone

/-- Both tabs poll at the end of the first interval, the one that loses the lease first. -/
def firstRenewals : List Deed :=
  [.pass (.sinceEpoch 4000), .act "b" (.poll (.sinceEpoch 4000)),
    .act "a" (.poll (.sinceEpoch 4000))]

/-- Both tabs poll at the end of the second interval. -/
def secondRenewals : List Deed :=
  [.pass (.sinceEpoch 8000), .act "a" (.poll (.sinceEpoch 8000)),
    .act "b" (.poll (.sinceEpoch 8000)), .pass (.sinceEpoch 8001)]

/-- Two tabs claim the lease at once and both lead. The one whose claim landed first backs off at
its first renewal, and the other one stays. -/
theorem first_claim_backs_off :
    ∃ scene first middle last : Scene, scene.Reachable {} ∧
      scene.initAtOnce {} ["b", "a"] = some first ∧ first.leaders = ["a", "b"] ∧
      first.run {} Attended firstRenewals = some middle ∧
      middle.run {} Attended secondRenewals = some last ∧
      middle.leaders = ["a"] ∧ last.leaders = ["a"] := by
  have course : ((new {} .epoch).run {} (fun _ _ => True) [.join "a", .join "b"]).any (fun scene =>
      decide (scene.now = .epoch ∧ scene.text {} = none ∧
          scene.election.contenders.names = ["a", "b"]) &&
        (scene.initAtOnce {} ["b", "a"]).any fun first =>
          decide (first.leaders = ["a", "b"]) &&
            (first.run {} Attended firstRenewals).any fun middle =>
              decide (middle.DoneBy (.sinceEpoch 4000)) &&
                (middle.run {} Attended secondRenewals).isSome) = true := by
    decide +kernel
  obtain ⟨scene, opened, course⟩ := (Option.any_eq_true _ _).mp course
  obtain ⟨begun, course⟩ := Bool.and_eq_true_iff.mp course
  obtain ⟨start, empty, names⟩ := of_decide_eq_true begun
  obtain ⟨first, looked, course⟩ := (Option.any_eq_true _ _).mp course
  obtain ⟨both, course⟩ := Bool.and_eq_true_iff.mp course
  obtain ⟨middle, ran, course⟩ := (Option.any_eq_true _ _).mp course
  obtain ⟨done, course⟩ := Bool.and_eq_true_iff.mp course
  obtain ⟨last, ranOn⟩ := Option.isSome_iff_exists.mp course
  have reachable : scene.Reachable {} := ⟨{}, .epoch, _, by decide, opened⟩
  have vacant : ∀ lease, Lease.held (scene.text {}) = some lease →
      lease.isStale scene.now (LeaderConfig.leaseTtl {}) = true := by
    intro lease held
    rw [empty] at held
    cases held
  have everyone : ["b", "a"].Perm scene.election.contenders.names := names ▸ List.Perm.swap _ _ _
  obtain ⟨claimed, claims, -, prevails⟩ := last_claim_prevails reachable vacant everyone rfl
  cases claims.symm.trans looked
  have due : middle.DoneBy (scene.now.after (LeaderConfig.heartbeatInterval {})) :=
    start ▸ of_decide_eq_true done
  have alone := prevails firstRenewals middle ran due
  exact ⟨scene, first, middle, last, reachable, looked, of_decide_eq_true both, ran, ranOn,
    alone [] middle rfl, alone secondRenewals last ranOn⟩

end Scene

end LiveTabs

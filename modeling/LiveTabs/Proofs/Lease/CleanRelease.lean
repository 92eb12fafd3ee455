import LiveTabs.Proofs.Lease.Ownership
import LiveTabs.Proofs.Lease.Polling
import LiveTabs.Proofs.Lease.ReportedRole
import LiveTabs.Proofs.RosterView

/-!
# Clean releases

A release looks at the lease only if its tab leads. That is enough to leave no lease of the tab
behind, because a tab with a role that holds the stored lease leads, whatever has happened: tabs
operate at any times, on settings of their own, any storage calls fail, and only the tabs write
under the key of the lease. `release_is_clean` says so after every course of such incidents.

A tab has a role from its first look at the lease to its release. `engaged` says so from the
incidents alone, and a tab that opens again under an id that holds the lease is not engaged before
it looks.
-/

namespace LiveTabs

namespace SharedStore

/-- Whether an event is a fault, the end of one, or no concern of a key. -/
def Event.Spares (key : String) : Event → Prop
  | .put other _ => other ≠ key
  | .erase other => other ≠ key
  | .pin other => other ≠ key
  | .disable _ | .switchOff _ | .fill _ | .unpin _ => True

instance (key : String) : (event : Event) → Decidable (event.Spares key)
  | .put other _ | .erase other | .pin other => inferInstanceAs (Decidable (other ≠ key))
  | .disable _ | .switchOff _ | .fill _ | .unpin _ => inferInstanceAs (Decidable True)

/-- Such an event leaves the text under the key, and pins no reads of it. So calls may fail or work
afterwards, but they are about the same text. -/
theorem apply_spares {key : String} {store : SharedStore} {event : Event}
    (spares : event.Spares key) (unpinned : Unpinned key store) :
    Unpinned key (store.apply event) ∧ (store.apply event).peek key = store.peek key := by
  cases event with
  | disable on | switchOff on | fill on => exact ⟨unpinned, rfl⟩
  | put other value =>
    refine ⟨unpinned, ?_⟩
    have apart : key ≠ other := Ne.symm spares
    simp only [apply, peek, MemoryStore.peek, MemoryStore.set]
    split <;> simp [apart]
  | erase other =>
    refine ⟨unpinned, ?_⟩
    have apart : key ≠ other := Ne.symm spares
    simp only [apply, peek, MemoryStore.peek, MemoryStore.remove]
    split <;> simp [apart]
  | pin other =>
    refine ⟨?_, rfl⟩
    rintro pin (_ | ⟨_, listed⟩)
    · exact spares
    · exact unpinned pin listed
  | unpin other => exact ⟨fun pin listed => unpinned pin (List.mem_filter.mp listed).1, rfl⟩

end SharedStore

namespace Candidate

/-- Whether a candidate has a role after an operation, by whether it had one before. -/
def Action.engages (engaged : Bool) : Action → Bool
  | .init _ => true
  | .evaluate _ => true
  | .poll _ => engaged
  | .noticeChange _ _ => engaged
  | .release => false

/-- Every operation happens before the calendar ends. -/
theorem Action.is_by_last (action : Action) : action.IsBy Instant.last := by
  cases action with
  | release => trivial
  | _ time => exact time.notAfter

variable {candidate : Candidate}

/-- A report tells of a role that the candidate has, and of none only if nothing has changed. -/
theorem Reports.role_isSome {result : Candidate × Option Role} (reports : candidate.Reports result)
    (taken : candidate.role.isSome = true) : result.1.role.isSome = true := by
  cases reports with
  | same after kept => rw [kept, taken]
  | changed after role now different => rw [now]; rfl

/-- Whatever the storage answers, a look at the lease gives a role, a release takes it, and nothing
else does either. -/
theorem role_isSome_act (timed : candidate.WellTimed Instant.last) (action : Action)
    {result : Candidate × Option Role} (gives : Access.MayGive result (candidate.act action)) :
    result.1.role.isSome = action.engages candidate.role.isSome := by
  cases action with
  | init now => exact Option.isSome_iff_ne_none.mpr (reports_of_evaluated gives).2
  | evaluate now => exact Option.isSome_iff_ne_none.mpr (reports_of_evaluated gives).2
  | poll now =>
    cases role : candidate.role with
    | some taken => exact (reports_of_poll gives).role_isSome (by rw [role]; rfl)
    | none =>
      have undue : Instant.isDue candidate.nextDeadline now = false := by
        rw [timed.unset role]
        rfl
      simp only [act, poll_of_undue undue] at gives
      cases Access.eq_of_may_give_pure gives
      exact congrArg Option.isSome role
  | noticeChange now key =>
    cases role : candidate.role with
    | some taken => exact (reports_of_notice gives).role_isSome (by rw [role]; rfl)
    | none =>
      simp only [act, noticeChange, if_pos (Or.inr role)] at gives
      cases Access.eq_of_may_give_pure gives
      exact congrArg Option.isSome role
  | release =>
    obtain ⟨released, release, gives⟩ := Access.may_give_bind _ gives
    cases Access.eq_of_may_give_pure gives
    exact congrArg Option.isSome (role_of_released release)

/-- An honest candidate with a role leads while it holds the lease. This is why a release removes
every lease that the tab holds. -/
theorem Honest.leads {text : Option String} (honest : candidate.Honest text)
    (taken : candidate.role ≠ none) (holds : Lease.IsHeldBy text candidate.tabId) :
    candidate.role = some .leader := by
  cases role : candidate.role with
  | none => exact absurd role taken
  | some present =>
    cases present with
    | leader => rfl
    | follower => exact absurd holds (honest role)

/-- A leader that is released removes the lease that it holds, if the store works at that time. -/
theorem released_clears (leads : candidate.role = some .leader) {text : Option String}
    (holds : Lease.IsHeldBy text candidate.tabId) : (candidate.released text).2 = none := by
  obtain ⟨lease, held, owner⟩ := holds
  simp [released, isLeader, leads, held, Lease.isOwnedBy, owner]

/-- A candidate that is released leaves a text that is no lease of its own, whether or not it
leads. -/
theorem released_keeps {text : Option String} (foreign : ¬ Lease.IsHeldBy text candidate.tabId) :
    (candidate.released text).2 = text := by
  cases held : Lease.held text with
  | none => simp [released, held]
  | some lease =>
    have apart : lease.owner ≠ candidate.tabId := fun owner => foreign ⟨lease, held, owner⟩
    simp [released, held, Lease.isOwnedBy, apart]

/-- After the release of a candidate that does not follow while it holds the lease, nothing is left
of its own, and whatever is not its own is left. -/
theorem Honest.released {text : Option String} (honest : candidate.Honest text)
    (taken : candidate.role ≠ none) :
    ¬ Lease.IsHeldBy (candidate.released text).2 candidate.tabId ∧
      (¬ Lease.IsHeldBy text candidate.tabId → (candidate.released text).2 = text) := by
  refine ⟨?_, released_keeps⟩
  by_cases holds : Lease.IsHeldBy text candidate.tabId
  · rw [released_clears (honest.leads taken holds) holds]
    rintro ⟨_, nothing, -⟩
    cases nothing
  · rwa [released_keeps holds]

end Candidate

namespace Election

/-- What can happen while only tabs write under the key of the lease. -/
inductive Incident where
  /-- A tab opens with settings of its own. -/
  | join (tabId : String) (config : LeaderConfig)
  /-- A tab is gone without a word. -/
  | dropOut (tabId : String)
  /-- Something happens to the store, such as a fault or the end of one. -/
  | disturb (event : SharedStore.Event)
  /-- A tab does one of its operations, at any time, while some of its calls fail. -/
  | act (tabId : String) (action : Candidate.Action) (faults : List (Option StorageError))

/-- The election that begins with given texts in the store and no tabs. -/
def new (entries : Entries) : Election := { store := { memory := { entries } } }

/-- The election after a tab did an operation some of whose calls failed. -/
def falter (election : Election) (tabId : String) (action : Candidate.Action)
    (faults : List (Option StorageError)) : Option Election :=
  (election.contenders.get? tabId).map fun contender =>
    let ended := Access.runFaulty (storageOf contender) faults election.store
      (contender.candidate.act action)
    { contenders := election.contenders.update tabId fun contender =>
        { contender with candidate := ended.1.1 }
      store := ended.2 }

/-- The election after an incident, if it can happen. An id that is taken cannot be used, and all
tabs keep the lease under one key, which no event concerns. -/
def after? (key : String) (election : Election) : Incident → Option Election
  | .join tabId config =>
    match election.contenders.get? tabId, election.join tabId tabId config true with
    | none, .ok joined => if config.leaseKey = key then some joined else none
    | _, _ => none
  | .dropOut tabId => some (election.dropOut tabId)
  | .disturb event => if event.Spares key then some (election.disturb event) else none
  | .act tabId action faults => election.falter tabId action faults

/-- The election after a number of incidents, one after the other, if they can happen. -/
def run (key : String) (election : Election) (incidents : List Incident) : Option Election :=
  incidents.foldlM (after? key) election

/-- Whether a tab is engaged after an incident, by whether it was before. -/
def Incident.engages (tabId : String) (engaged : Bool) : Incident → Bool
  | .join other _ => engaged && decide (other ≠ tabId)
  | .dropOut other => engaged && decide (other ≠ tabId)
  | .disturb _ => engaged
  | .act other action _ => if other = tabId then action.engages engaged else engaged

/-- Whether a tab has looked at the lease of itself since it opened, and was not released since. -/
def engaged (incidents : List Incident) (tabId : String) : Bool :=
  incidents.foldl (Incident.engages tabId) false

/-- The role of a tab. -/
def role? (election : Election) (tabId : String) : Option Role :=
  (election.contenders.get? tabId).bind fun contender => contender.candidate.role

/-- What holds of a tab after any incidents. -/
structure TabSound (key : String) (text : Option String) (tabId : String) (contender : Contender) :
    Prop where
  equipped : contender.hasStorage = true
  identity : contender.candidate.tabId = tabId
  settings : contender.candidate.config.leaseKey = key
  timed : contender.candidate.WellTimed Instant.last
  honest : contender.candidate.Honest text

/-- What holds of an election after any incidents, some of which have engaged tabs. -/
structure Sound (key : String) (engaged : String → Bool) (election : Election) : Prop where
  unpinned : SharedStore.Unpinned key election.store
  tabs : ∀ tabId contender, election.contenders.get? tabId = some contender →
    TabSound key (election.store.peek key) tabId contender
  roles : ∀ tabId, (election.role? tabId).isSome = engaged tabId

/-- A new election is sound, whatever is stored: no tab has a role that would have to be backed. -/
theorem sound_of_new (key : String) (entries : Entries) : (new entries).Sound key (engaged []) where
  unpinned := nofun
  tabs := by simp [new]
  roles := by simp [new, role?, engaged]

variable {key : String} {engaged : String → Bool} {election next : Election} {tabId : String}

/-- A tab that opens is sound: it has no role yet. -/
theorem Sound.join (sound : election.Sound key engaged) {config : LeaderConfig}
    (joined : election.after? key (.join tabId config) = some next) :
    next.Sound key fun other => (Incident.join tabId config).engages other (engaged other) := by
  simp only [after?] at joined
  split at joined
  · rename_i enrolled free created
    split at joined
    · rename_i shared
      cases joined
      obtain ⟨-, rfl⟩ := Candidate.of_join created
      refine ⟨sound.unpinned, ?_, ?_⟩
      · intro other contender present
        simp only [Roster.get?_enrol] at present
        split at present
        · rename_i same
          cases present
          refine ⟨rfl, same.symm, shared, Candidate.well_timed_of_new _ _ _, ?_⟩
          intro follows
          cases follows
        · exact sound.tabs other contender present
      · intro other
        have before := sound.roles other
        simp only [role?, Roster.get?_enrol, Incident.engages]
        by_cases same : other = tabId
        · simp [same]
        · simpa [same, Ne.symm same, role?] using before
    · cases joined
  · cases joined

/-- A tab that is gone leaves the others sound, although its lease stays where it is. -/
theorem Sound.dropOut (sound : election.Sound key engaged) (tabId : String) :
    (election.dropOut tabId).Sound key
      fun other => (Incident.dropOut tabId).engages other (engaged other) := by
  refine ⟨sound.unpinned, ?_, ?_⟩
  · intro other contender present
    simp only [Election.dropOut, Roster.get?_remove] at present
    split at present
    · cases present
    · exact sound.tabs other contender present
  · intro other
    have before := sound.roles other
    simp only [role?, Election.dropOut, Roster.get?_remove, Incident.engages]
    by_cases same : other = tabId
    · simp [same]
    · simpa [same, Ne.symm same, role?] using before

/-- An event that spares the lease leaves all tabs sound, whatever it does to the working of the
store. -/
theorem Sound.disturb (sound : election.Sound key engaged) {event : SharedStore.Event}
    (spares : event.Spares key) : (election.disturb event).Sound key engaged := by
  obtain ⟨unpinned, text⟩ := SharedStore.apply_spares spares sound.unpinned
  refine ⟨unpinned, ?_, sound.roles⟩
  intro other contender present
  have tab := sound.tabs other contender present
  exact { tab with honest := by rw [Election.disturb, text]; exact tab.honest }

/-- An operation leaves all tabs sound, whichever of its calls fail: its own tab because operations
do, and the others because it writes no lease of theirs. -/
theorem Sound.falter (sound : election.Sound key engaged) {action : Candidate.Action}
    {faults : List (Option StorageError)}
    (done : election.falter tabId action faults = some next) :
    next.Sound key
      fun other => (Incident.act tabId action faults).engages other (engaged other) := by
  obtain ⟨contender, found, rfl⟩ := Option.map_eq_some_iff.mp done
  have tab := sound.tabs tabId contender found
  have seen : storageOf contender = SharedStore.storage := if_pos tab.equipped
  have confined := contender.candidate.confined_act_by action.is_by_last
  rw [tab.settings] at confined
  have ends : ∀ {property : Candidate × Option Role → Option String → Prop},
      Access.Always property (election.store.peek key) (contender.candidate.act action) → _ :=
    Access.run_faulty_always (SharedStore.falters key) _ confined faults election.store
      sound.unpinned
  obtain ⟨upholds, unpinned⟩ :=
    ends (contender.candidate.always_act tab.timed.leading tab.honest action)
  obtain ⟨⟨same, timed⟩, -⟩ := ends (Access.always_of_confined _ _ confined)
  have gives := Access.run_faulty_may_give SharedStore.storage faults election.store
    (contender.candidate.act action)
  have role := Candidate.role_isSome_act tab.timed action gives
  rw [seen]
  generalize Access.runFaulty SharedStore.storage faults election.store
    (contender.candidate.act action) = ended at *
  refine ⟨unpinned, ?_, ?_⟩
  · intro other bystander present
    simp only [Roster.get?_update] at present
    split at present
    · rename_i here
      rw [here, found] at present
      cases present
      exact ⟨tab.equipped, here ▸ same.tabId.trans tab.identity,
        (congrArg LeaderConfig.leaseKey same.config).trans tab.settings, timed tab.timed,
        upholds.honest⟩
    · rename_i apart
      have others := sound.tabs other bystander present
      refine { others with honest := upholds.others_honest ?_ others.honest }
      rw [others.identity, tab.identity]
      exact apart
  · intro other
    have before := sound.roles other
    simp only [role?, Roster.get?_update, Incident.engages]
    by_cases here : other = tabId
    · subst here
      rw [role?, found] at before
      simp only [if_true, found, Option.map_some, Option.bind_some, role, ← before]
    · simpa [here, Ne.symm here, role?] using before

/-- Every incident leaves an election sound, one kind of incident after the other. This is the step
of the invariant. -/
theorem Sound.after (sound : election.Sound key engaged) {incident : Incident}
    (done : election.after? key incident = some next) :
    next.Sound key fun other => incident.engages other (engaged other) := by
  cases incident with
  | join tabId config => exact sound.join done
  | dropOut tabId =>
    cases done
    exact sound.dropOut tabId
  | disturb event =>
    simp only [after?] at done
    split at done
    · rename_i spares
      cases done
      exact sound.disturb spares
    · cases done
  | act tabId action faults => exact sound.falter done

/-- Any incidents leave an election sound.

Proof: by induction on the incidents. -/
theorem Sound.run (sound : election.Sound key engaged) (incidents : List Incident)
    (ran : election.run key incidents = some next) :
    next.Sound key fun other => incidents.foldl (Incident.engages other) (engaged other) := by
  induction incidents generalizing election engaged with
  | nil =>
    cases ran
    exact sound
  | cons incident rest inductionHypothesis =>
    rw [Election.run, List.foldlM_cons] at ran
    obtain ⟨between, done, onward⟩ := Option.bind_eq_some_iff.mp ran
    exact inductionHypothesis (sound.after done) onward

/-- On a working store a release does what the candidate responds, and leaves nothing to wait
for. -/
theorem Sound.release (sound : election.Sound key engaged) {contender : Contender}
    (found : election.contenders.get? tabId = some contender)
    (works : election.store.Works key) :
    ∃ released next, election.act tabId .release = some (none, released, next) ∧
      released.role = none ∧ released.nextDeadline = none ∧
      next.store.peek key = (contender.candidate.released (election.store.peek key)).2 := by
  have tab := sound.tabs tabId contender found
  have seen : storageOf contender = SharedStore.storage := if_pos tab.equipped
  have confined := contender.candidate.confined_release Instant.last
  rw [tab.settings] at confined
  obtain ⟨released, left, -⟩ :=
    Access.run_serves (SharedStore.serves key) _ confined election.store works
  rw [Candidate.run_release] at released left
  let ended := Access.run SharedStore.storage election.store contender.candidate.release
  have done : Access.run (storageOf contender) election.store (contender.candidate.act .release) =
      ((ended.1, none), ended.2) := by
    rw [seen]
    exact Access.run_bind _ _ _ _
  refine ⟨ended.1, _, by rw [act, found, Option.map_some, done], ?_, ?_, left⟩
  · exact congrArg Candidate.role released
  · exact congrArg Candidate.nextDeadline released

/-- After any incidents, an engaged tab that holds the stored lease leads. So if it is released
while the store works, no lease of its own is left, a text that is no lease of its own is left as it
was, and it has neither a role nor a deadline.

Proof: incidents keep all tabs from following while they hold the lease, so the release of a tab
that does not lead has nothing to remove. -/
theorem release_is_clean {key : String} {entries : Entries} {incidents : List Incident}
    {election : Election} (ran : (new entries).run key incidents = some election) {tabId : String}
    (engages : Election.engaged incidents tabId = true) :
    (Lease.IsHeldBy (election.store.peek key) tabId → election.role? tabId = some .leader) ∧
      (election.store.Works key → ∃ released next,
        election.act tabId .release = some (none, released, next) ∧
        released.role = none ∧ released.nextDeadline = none ∧
        ¬ Lease.IsHeldBy (next.store.peek key) tabId ∧
        (¬ Lease.IsHeldBy (election.store.peek key) tabId →
          next.store.peek key = election.store.peek key)) := by
  have sound : election.Sound key (Election.engaged incidents) :=
    (sound_of_new key entries).run incidents ran
  obtain ⟨role, taken⟩ := Option.isSome_iff_exists.mp ((sound.roles tabId).trans engages)
  obtain ⟨contender, found, present⟩ := Option.bind_eq_some_iff.mp taken
  have tab := sound.tabs tabId contender found
  have engaging : contender.candidate.role ≠ none := present ▸ Option.some_ne_none role
  obtain ⟨cleared, kept⟩ := tab.honest.released engaging
  rw [tab.identity] at cleared kept
  refine ⟨fun holds => ?_, fun works => ?_⟩
  · have leads := tab.honest.leads engaging (tab.identity.symm ▸ holds)
    rw [role?, found]
    exact leads
  · obtain ⟨released, next, done, idle, waits, text⟩ := sound.release found works
    rw [← text] at cleared kept
    exact ⟨released, next, done, idle, waits, cleared, kept⟩

/-- One tab leads on a lease that it could not renew, and another one leads because it could not
read that lease. The clock of the second tab is behind. -/
def outageForTwo : List Incident :=
  [.join "a" {}, .act "a" (.init (.sinceEpoch 1000)) [], .join "b" {},
    .act "b" (.init .epoch) [], .disturb (.disable true), .act "a" (.poll (.sinceEpoch 5000)) [],
    .disturb (.disable false), .act "b" (.evaluate (.sinceEpoch 4000)) [none, some .unavailable]]

/-- When both are closed, the one that holds the lease removes it, and the other one leaves it. -/
theorem close_after_outage :
    ∃ election, (new {}).run "tabsync:leader" outageForTwo = some election ∧
      election.role? "b" = some .leader ∧
      Lease.IsHeldBy (election.store.peek "tabsync:leader") "a" ∧
      (∃ released next, election.act "a" .release = some (none, released, next) ∧
        ¬ Lease.IsHeldBy (next.store.peek "tabsync:leader") "a") ∧
      ∃ released next, election.act "b" .release = some (none, released, next) ∧
        next.store.peek "tabsync:leader" = election.store.peek "tabsync:leader" := by
  have course : ((new {}).run "tabsync:leader" outageForTwo).any (fun election =>
      decide (election.role? "b" = some .leader ∧ election.store.off = false ∧
        election.store.readOnly = false ∧ election.store.memory.disabled = false ∧
        election.store.pinned = [] ∧
        (Lease.held (election.store.peek "tabsync:leader")).map Lease.owner = some "a")) =
          true := by
    decide +kernel
  obtain ⟨election, ran, ended⟩ := (Option.any_eq_true _ _).mp course
  obtain ⟨leads, on, writable, enabled, free, owner⟩ := of_decide_eq_true ended
  have works : election.store.Works "tabsync:leader" :=
    ⟨on, writable, enabled, by simp [free]⟩
  have holds : Lease.IsHeldBy (election.store.peek "tabsync:leader") "a" :=
    Option.map_eq_some_iff.mp owner
  have foreign : ¬ Lease.IsHeldBy (election.store.peek "tabsync:leader") "b" :=
    fun other => absurd (Lease.holder_unique holds other) (by decide)
  obtain ⟨-, closes⟩ := release_is_clean ran (show engaged outageForTwo "a" = true by decide)
  obtain ⟨released, next, done, -, -, clean, -⟩ := closes works
  obtain ⟨-, closesOther⟩ := release_is_clean ran (show engaged outageForTwo "b" = true by decide)
  obtain ⟨other, last, doneOther, -, -, -, kept⟩ := closesOther works
  exact ⟨election, ran, leads, holds, ⟨released, next, done, clean⟩, other, last, doneOther,
    kept foreign⟩

end Election

end LiveTabs

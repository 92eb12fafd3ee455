import LiveTabs.Proofs.Lease.Settling
import LiveTabs.Proofs.RosterView
import LiveTabs.Proofs.Storage.Notices

/-!
# Races for the lease

Tabs on one watched store make their calls one at a time, in any order, so that the calls of others
may come between the read of an operation and its write. Two tabs may then lead for a while. The
notices put it right: a tab has a notice of the lease before it, or is settled once its operation
has come to its end. When nothing is going on any more, `quiet_race_has_one_leader` draws the
conclusion.

Tabs go by their ids, so no two of them have the same one. Notices that a tab has not heard of may
be lost when too many are sent. The last one is kept, which is all that is needed.
-/

namespace LiveTabs

/-- A tab in a race: its number with the store, its candidate, and its operation in progress. -/
structure Racer where
  number : Nat
  candidate : Candidate
  running : Option (Access (Candidate × Option Role)) := none

namespace Racer

/-- What is left to do of the operation in progress. -/
def rest (racer : Racer) : Access (Candidate × Option Role) :=
  racer.running.getD (.done (racer.candidate, none))

/-- The tab with an operation just begun. -/
def start (racer : Racer) (action : Candidate.Action) : Racer :=
  { racer with running := some (racer.candidate.act action) }

/-- The tab and the store after the next call of its operation, or after the operation has given its
result. -/
def proceed (racer : Racer) (store : WatchedStore) : Racer × WatchedStore :=
  match racer.rest with
  | .done (candidate, _) => ({ racer with candidate, running := none }, store)
  | program =>
    let (running, store) := Access.step (WatchedStore.storage racer.number) store program
    ({ racer with running := some running }, store)

/-- The tab and the store after the tab has heard of the next change by another tab, if there is
one, and has begun to look into it. -/
def hear (racer : Racer) (store : WatchedStore) (now : Instant) : Racer × WatchedStore :=
  match store.hearNext racer.number with
  | (none, store) => (racer, store)
  | (some key, store) => (racer.start (.noticeChange now (some key)), store)

end Racer

/-- Tabs that race for the lease on one watched store. -/
structure Race where
  store : WatchedStore := {}
  tabs : Roster Racer := {}

namespace Race

/-- What a tab can do next. -/
inductive Move where
  /-- The tab opens. -/
  | enter
  /-- The tab begins an operation. -/
  | start (action : Candidate.Action)
  /-- The operation in progress makes its next call or gives its result. -/
  | proceed
  /-- The tab hears of the next change by another tab and looks into it. -/
  | hear (now : Instant)
  /-- The tab is gone without a word, whatever it was doing. -/
  | crash

/-- A race that begins with given texts in the store and no tabs. -/
def new (entries : Entries) : Race := { store := { memory := { entries } } }

/-- The tab with an id, if it has no operation in progress. -/
def idle? (race : Race) (tabId : String) : Option Racer :=
  (race.tabs.get? tabId).filter fun racer => racer.running.isNone

/-- The race with a tab and the store changed. -/
def replace (race : Race) (tabId : String) (racer : Racer) (store : WatchedStore) : Race :=
  { store, tabs := race.tabs.update tabId fun _ => racer }

/-- The race after a move of a tab, if it can make that move. -/
def after? (config : LeaderConfig) (race : Race) (tabId : String) : Move → Option Race
  | .enter =>
    match race.tabs.get? tabId, Candidate.create tabId config with
    | none, .ok candidate =>
      let (number, store) := race.store.attach
      some { store, tabs := race.tabs.enrol tabId { number, candidate } }
    | _, _ => none
  | .start action =>
    (race.idle? tabId).map fun racer => race.replace tabId (racer.start action) race.store
  | .proceed =>
    (race.tabs.get? tabId).map fun racer =>
      race.replace tabId (racer.proceed race.store).1 (racer.proceed race.store).2
  | .hear now =>
    (race.idle? tabId).map fun racer =>
      race.replace tabId (racer.hear race.store now).1 (racer.hear race.store now).2
  | .crash =>
    (race.tabs.get? tabId).map fun racer => {
      store := { race.store with
        changes := (race.store.changes.closeSender racer.number).closeReceiver racer.number }
      tabs := race.tabs.remove tabId }

/-- The race after a number of moves, one after the other, if they can be made. -/
def run (config : LeaderConfig) (race : Race) (moves : List (String × Move)) : Option Race :=
  moves.foldlM (fun race move => race.after? config move.1 move.2) race

/-- No operation is in progress, and every tab has heard of everything. -/
def Quiet (race : Race) : Prop :=
  ∀ member ∈ race.tabs.members,
    member.2.running = none ∧ race.store.news member.2.number = []

instance (race : Race) : Decidable race.Quiet :=
  inferInstanceAs (Decidable (∀ member ∈ race.tabs.members, _))

/-- The tabs that lead. -/
def leaders (race : Race) : List String := race.tabs.those fun racer => racer.candidate.isLeader

end Race

/-- What holds of a tab at any moment of a race: its calls are those of its candidate under the key
of the lease, and it either has a notice of the lease before it or is on the way to be settled. -/
structure Racer.Sound (config : LeaderConfig) (tabId : String) (store : WatchedStore)
    (racer : Racer) : Prop where
  receives : ∃ place, store.changes.place? racer.number = some place
  identity : racer.candidate.tabId = tabId
  settings : racer.candidate.config = config
  confined : Access.Confined config.leaseKey (fun result => racer.candidate.SameTab result.1)
    racer.rest
  afterWrite : Access.AfterWrite (fun ended => ended.1.1.Settled ended.2) racer.rest
  heeds : config.leaseKey ∈ store.news racer.number ∨
    let ended := Candidate.outcome (store.memory.peek config.leaseKey) racer.rest
    ended.1.Settled ended.2

/-- What holds at any moment of a race. -/
structure Race.Sound (config : LeaderConfig) (race : Race) : Prop where
  proper : race.tabs.IsProper
  works : race.store.Works
  inOrder : race.store.changes.InOrder
  numbers : ∀ first second racer other, race.tabs.get? first = some racer →
    race.tabs.get? second = some other → racer.number = other.number → first = second
  tabs : ∀ tabId racer, race.tabs.get? tabId = some racer → racer.Sound config tabId race.store

namespace Racer

variable {config : LeaderConfig} {tabId : String} {store after : WatchedStore} {racer : Racer}

/-- A tab stays sound while others act: either nothing that concerns it changes, or it has a
notice. -/
theorem Sound.carry (sound : racer.Sound config tabId store)
    (receives : ∃ place, after.changes.place? racer.number = some place)
    (told : config.leaseKey ∈ after.news racer.number ∨
      (after.news racer.number = store.news racer.number ∧
        after.memory.peek config.leaseKey = store.memory.peek config.leaseKey)) :
    racer.Sound config tabId after := by
  refine { sound with receives, heeds := ?_ }
  obtain noticed | ⟨sameNews, sameText⟩ := told
  · exact .inl noticed
  · rw [sameNews, sameText]
    exact sound.heeds

/-- A tab that just opened is sound: it has no role. -/
theorem sound_of_new {candidate : Candidate}
    (created : Candidate.create tabId config = .ok candidate) (store : WatchedStore) :
    Sound config tabId store.attach.2 { number := store.attach.1, candidate } := by
  obtain ⟨-, rfl⟩ := Candidate.of_create created
  refine ⟨⟨store.changes.sent, ?_⟩, rfl, rfl, ⟨rfl, rfl⟩, trivial, .inr ?_⟩
  · exact (store.changes.place?_join _).trans (if_pos rfl)
  · refine fun leads => ?_
    cases leads

/-- A tab that begins an operation stays sound, because operations keep settled candidates
settled. -/
theorem Sound.start (sound : racer.Sound config tabId store) (idle : racer.running = none)
    (action : Candidate.Action) : (racer.start action).Sound config tabId store := by
  have rest : racer.rest = .done (racer.candidate, none) := by rw [Racer.rest, idle]; rfl
  have ⟨now, atNow⟩ : ∃ now, action.IsAt now := by
    cases action with
    | release => exact ⟨.epoch, trivial⟩
    | _ now => exact ⟨now, rfl⟩
  refine ⟨sound.receives, sound.identity, sound.settings, ?_, ?_, ?_⟩
  · have confined := racer.candidate.confined_act atNow
    rw [sound.settings] at confined
    exact Access.confined_mono _ confined fun result succeeds => succeeds.1
  · exact racer.candidate.after_write_act action
  · refine sound.heeds.imp id ?_
    intro settled
    rw [rest] at settled
    have still := Candidate.settled_respond settled action
    rw [← Candidate.outcome_act] at still
    exact still

/-- A tab that hears of a change stays sound: either the change concerns another key, or the tab
looks into the lease and is on the way to be settled. -/
theorem Sound.hear (sound : racer.Sound config tabId store) (idle : racer.running = none)
    (inOrder : store.changes.InOrder) (now : Instant) :
    (racer.hear store now).1.Sound config tabId (racer.hear store now).2 := by
  obtain ⟨place, found⟩ := sound.receives
  obtain ⟨left, moved, news⟩ := WatchedStore.hear_next inOrder found
  have receives : ∃ place, (store.changes.leave racer.number left).place? racer.number =
      some place := ⟨_, by rw [Feed.place?_leave, if_pos rfl, found]; rfl⟩
  unfold Racer.hear
  split
  · rename_i after heard
    rw [heard] at moved news
    subst moved
    refine { sound with receives, heeds := sound.heeds.imp ?_ id }
    intro noticed
    rw [news] at noticed
    exact noticed
  · rename_i key after heard
    rw [heard] at moved news
    subst moved
    have started := sound.start idle (.noticeChange now (some key))
    by_cases lease : key = config.leaseKey
    · subst lease
      refine { started with receives, heeds := .inr ?_ }
      have settled := racer.candidate.settled_of_notice (store.memory.peek config.leaseKey) now
      rw [← Candidate.outcome_act, sound.settings] at settled
      exact settled
    · have still : racer.Sound config tabId
          { store with changes := store.changes.leave racer.number left } := by
        refine { sound with receives, heeds := sound.heeds.imp ?_ id }
        intro noticed
        rw [news] at noticed
        exact List.mem_of_ne_of_mem (Ne.symm lease) noticed
      exact still.start idle _

/-- The next call of a tab keeps it sound: what its operation comes to stays the same unless it
changes the text, and then the operation settles. -/
theorem Sound.proceed (sound : racer.Sound config tabId store) (works : store.Works) :
    (racer.proceed store).1.Sound config tabId (racer.proceed store).2 := by
  have serves := WatchedStore.serves racer.number config.leaseKey
  obtain ⟨place, found⟩ := sound.receives
  have confined := sound.confined
  have afterWrite := sound.afterWrite
  have heeds := sound.heeds
  unfold Racer.proceed
  split
  · rename_i candidate reported rest
    rw [rest] at confined heeds
    exact ⟨sound.receives, confined.tabId.trans sound.identity,
      confined.config.trans sound.settings, ⟨rfl, rfl⟩, trivial, heeds⟩
  · have onward := Access.step_serves serves racer.rest confined store works
    have settles := Access.step_after_write serves racer.rest confined afterWrite store works
    have changes := WatchedStore.step_changes works racer.number racer.rest confined
    refine ⟨⟨place, ?_⟩, sound.identity, sound.settings, onward.2.1, settles.1, ?_⟩
    · obtain ⟨-, same⟩ | ⟨-, sent⟩ := changes
      · rw [same]; exact found
      · rw [sent]; exact found
    · obtain ⟨-, same⟩ | ⟨changed, -⟩ := changes
      · obtain noticed | settled := heeds
        · rw [WatchedStore.news, same]
          exact .inl noticed
        · simp only [Candidate.outcome, ← onward.2.2] at settled
          exact .inr settled
      · exact .inr (settles.2 changed)

/-- A call of a tab leaves the store working, and tells of the lease unless it leaves its text. -/
theorem Sound.proceed_store (sound : racer.Sound config tabId store) (works : store.Works) :
    (racer.proceed store).2.Works ∧
      (((racer.proceed store).2.memory.peek config.leaseKey = store.memory.peek config.leaseKey ∧
          (racer.proceed store).2.changes = store.changes) ∨
        (racer.proceed store).2.changes =
          store.changes.send { key := config.leaseKey, origin := racer.number }) := by
  unfold Racer.proceed
  split
  · exact ⟨works, .inl ⟨rfl, rfl⟩⟩
  · have serves := WatchedStore.serves racer.number config.leaseKey
    refine ⟨(Access.step_serves serves racer.rest sound.confined store works).1, ?_⟩
    have changes := WatchedStore.step_changes works racer.number racer.rest sound.confined
    exact changes.imp id fun sent => sent.2

end Racer

namespace Race

variable {config : LeaderConfig} {race : Race}

/-- A new race is sound. -/
theorem sound_of_new (config : LeaderConfig) (entries : Entries) : (new entries).Sound config where
  proper := List.nodup_nil
  works := rfl
  inOrder := Feed.in_order_of_new
  numbers := by simp [new]
  tabs := by simp [new]

/-- A race stays sound if one tab and the store change soundly, and every other tab either is not
concerned or has a notice. -/
theorem Sound.replace (sound : race.Sound config) {tabId : String} {before after : Racer}
    {store : WatchedStore} (found : race.tabs.get? tabId = some before)
    (number : after.number = before.number) (changed : after.Sound config tabId store)
    (works : store.Works) (inOrder : store.changes.InOrder)
    (others : ∀ other place, other ≠ before.number → race.store.changes.place? other = some place →
      (∃ place, store.changes.place? other = some place) ∧
        (config.leaseKey ∈ store.news other ∨ (store.news other = race.store.news other ∧
          store.memory.peek config.leaseKey = race.store.memory.peek config.leaseKey))) :
    (race.replace tabId after store).Sound config := by
  have view : ∀ other, (race.replace tabId after store).tabs.get? other =
      if other = tabId then some after else race.tabs.get? other := by
    intro other
    rw [Race.replace, Roster.get?_update]
    split
    · rename_i same
      rw [same, found]
      rfl
    · rfl
  have numbered : ∀ other racer, (race.replace tabId after store).tabs.get? other = some racer →
      ∃ old, race.tabs.get? other = some old ∧ old.number = racer.number := by
    intro other racer present
    rw [view] at present
    split at present
    · rename_i same
      cases present
      exact ⟨before, same ▸ found, number.symm⟩
    · exact ⟨racer, present, rfl⟩
  refine ⟨sound.proper.update _ _, works, inOrder, ?_, ?_⟩
  · intro first second racer other left right same
    obtain ⟨old, present, oldNumber⟩ := numbered first racer left
    obtain ⟨older, alsoPresent, olderNumber⟩ := numbered second other right
    exact sound.numbers first second old older present alsoPresent
      (oldNumber.trans (same.trans olderNumber.symm))
  · intro other racer present
    rw [view] at present
    split at present
    · rename_i same
      cases present
      exact same ▸ changed
    · rename_i different
      have before := sound.tabs other racer present
      obtain ⟨place, receiving⟩ := before.receives
      have apart : racer.number ≠ _ := fun same =>
        different (sound.numbers other tabId racer _ present found same)
      obtain ⟨receives, told⟩ := others racer.number place apart receiving
      exact before.carry receives told

/-- A tab that opens keeps the race sound: its number is new to the store. -/
theorem Sound.enter (sound : race.Sound config) {tabId : String} {candidate : Candidate}
    (entered : Racer.Sound config tabId race.store.attach.2
      { number := race.store.attach.1, candidate }) :
    Sound config {
      store := race.store.attach.2
      tabs := race.tabs.enrol tabId { number := race.store.attach.1, candidate } } := by
  have fresh : race.store.changes.place? race.store.attach.1 = none :=
    race.store.changes.place?_new
  have apart : ∀ other racer, race.tabs.get? other = some racer →
      racer.number ≠ race.store.attach.1 := by
    intro other racer present same
    obtain ⟨place, receiving⟩ := (sound.tabs other racer present).receives
    rw [same, fresh] at receiving
    cases receiving
  refine ⟨sound.proper.enrol _ _, sound.works, sound.inOrder.join, ?_, ?_⟩
  · intro first second racer other left right same
    rw [Roster.get?_enrol] at left right
    split at left <;> split at right
    · simp_all
    · cases left
      exact absurd same.symm (apart second other right)
    · cases right
      exact absurd same (apart first racer left)
    · exact sound.numbers first second racer other left right same
  · intro other racer present
    rw [Roster.get?_enrol] at present
    split at present
    · rename_i same
      cases present
      exact same ▸ entered
    · have before := sound.tabs other racer present
      have stays : race.store.attach.2.changes.place? racer.number =
          race.store.changes.place? racer.number :=
        (race.store.changes.place?_join _).trans (if_neg (apart other racer present))
      refine before.carry (stays ▸ before.receives) (.inr ⟨?_, rfl⟩)
      rw [WatchedStore.news, WatchedStore.news, Feed.pending_eq, Feed.pending_eq, stays]
      rfl

/-- A tab that crashes keeps the race sound, in the middle of an operation or between two. Its lease
and its notices stay. -/
theorem Sound.crash (sound : race.Sound config) {tabId : String} {racer : Racer}
    (found : race.tabs.get? tabId = some racer) :
    Sound config {
      store := { race.store with
        changes := (race.store.changes.closeSender racer.number).closeReceiver racer.number }
      tabs := race.tabs.remove tabId } := by
  have remains : ∀ other racer, (race.tabs.remove tabId).get? other = some racer →
      other ≠ tabId ∧ race.tabs.get? other = some racer := by
    intro other racer present
    rw [Roster.get?_remove] at present
    split at present
    · cases present
    · exact ⟨‹_›, present⟩
  refine ⟨sound.proper.remove _, sound.works, sound.inOrder.close racer.number, ?_, ?_⟩
  · intro first second racer other left right same
    exact sound.numbers first second racer other (remains first racer left).2
      (remains second other right).2 same
  · intro other survivor present
    obtain ⟨different, there⟩ := remains other survivor present
    have before := sound.tabs other survivor there
    have apart : survivor.number ≠ racer.number := fun same =>
      different (sound.numbers other tabId survivor racer there found same)
    have stays : ((race.store.changes.closeSender racer.number).closeReceiver
        racer.number).place? survivor.number = race.store.changes.place? survivor.number := by
      rw [Feed.place?_closeReceiver, if_neg apart, Feed.place?_closeSender]
    refine before.carry (stays ▸ before.receives) (.inr ⟨?_, rfl⟩)
    rw [WatchedStore.news, WatchedStore.news, Feed.pending_eq, Feed.pending_eq, stays]
    rfl

/-- A call of a tab keeps the race sound: if it changes the text, every other tab has a notice of
it. -/
theorem Sound.proceed (sound : race.Sound config) {tabId : String} {racer : Racer}
    (found : race.tabs.get? tabId = some racer) :
    (race.replace tabId (racer.proceed race.store).1 (racer.proceed race.store).2).Sound
      config := by
  have before := sound.tabs tabId racer found
  obtain ⟨works, changes⟩ := before.proceed_store sound.works
  have number : (racer.proceed race.store).1.number = racer.number := by
    unfold Racer.proceed
    split <;> rfl
  refine sound.replace found number (before.proceed sound.works) works ?_ ?_
  · obtain ⟨-, same⟩ | sent := changes
    · rw [same]
      exact sound.inOrder
    · rw [sent]
      exact sound.inOrder.send _
  · intro other place apart receiving
    obtain ⟨sameText, same⟩ | sent := changes
    · refine ⟨⟨place, same ▸ receiving⟩, .inr ⟨?_, sameText⟩⟩
      rw [WatchedStore.news, same, WatchedStore.news]
    · refine ⟨⟨place, sent ▸ receiving⟩, .inl ?_⟩
      have noticed := WatchedStore.mem_news_send sound.inOrder receiving (Ne.symm apart)
        config.leaseKey (racer.proceed race.store).2.memory
      rw [← sent] at noticed
      exact noticed

/-- A tab that hears of a change keeps the race sound: the notices of the others stay. -/
theorem Sound.hear (sound : race.Sound config) {tabId : String} {racer : Racer}
    (found : race.tabs.get? tabId = some racer) (idle : racer.running = none) (now : Instant) :
    (race.replace tabId (racer.hear race.store now).1 (racer.hear race.store now).2).Sound
      config := by
  have before := sound.tabs tabId racer found
  obtain ⟨place, receiving⟩ := before.receives
  obtain ⟨left, heard, -⟩ := WatchedStore.hear_next sound.inOrder receiving
  have store : (racer.hear race.store now).2 = (race.store.hearNext racer.number).2 := by
    unfold Racer.hear
    split <;> simp_all
  have number : (racer.hear race.store now).1.number = racer.number := by
    unfold Racer.hear
    split <;> rfl
  refine sound.replace found number (before.hear idle sound.inOrder now) ?_ ?_ ?_
  · rw [store, heard]
    exact sound.works
  · rw [store, heard]
    exact sound.inOrder.leave _ _
  · intro other place apart present
    rw [store, heard]
    refine ⟨⟨place, by rw [Feed.place?_leave, if_neg apart, present]⟩, .inr ⟨?_, rfl⟩⟩
    exact race.store.news_leave_other racer.number left apart

/-- Every move keeps a race sound, one kind of move after the other. This is the step of the
invariant, for any interleaving of single calls. -/
theorem sound_after {config : LeaderConfig} {race next : Race} (sound : race.Sound config)
    (tabId : String) (move : Move) (moved : race.after? config tabId move = some next) :
    next.Sound config := by
  cases move with
  | enter =>
    simp only [after?] at moved
    split at moved
    · rename_i candidate free created
      cases moved
      exact sound.enter (Racer.sound_of_new created race.store)
    · cases moved
  | start action =>
    obtain ⟨racer, present, rfl⟩ := Option.map_eq_some_iff.mp moved
    obtain ⟨found, idle⟩ := Option.filter_eq_some_iff.mp present
    have started := (sound.tabs tabId racer found).start (by simpa using idle) action
    exact sound.replace found rfl started sound.works sound.inOrder
      fun other place _ receiving => ⟨⟨place, receiving⟩, .inr ⟨rfl, rfl⟩⟩
  | proceed =>
    obtain ⟨racer, found, rfl⟩ := Option.map_eq_some_iff.mp moved
    exact sound.proceed found
  | hear now =>
    obtain ⟨racer, present, rfl⟩ := Option.map_eq_some_iff.mp moved
    obtain ⟨found, idle⟩ := Option.filter_eq_some_iff.mp present
    exact sound.hear found (by simpa using idle) now
  | crash =>
    obtain ⟨racer, found, rfl⟩ := Option.map_eq_some_iff.mp moved
    exact sound.crash found

/-- A race stays sound over any number of moves.

Proof: by induction on the moves. -/
theorem sound_run {config : LeaderConfig} {race last : Race} (sound : race.Sound config)
    (moves : List (String × Move)) (ran : race.run config moves = some last) :
    last.Sound config := by
  induction moves generalizing race with
  | nil =>
    cases ran
    exact sound
  | cons move rest inductionHypothesis =>
    rw [run, List.foldlM_cons] at ran
    obtain ⟨next, moved, onward⟩ := Option.bind_eq_some_iff.mp ran
    exact inductionHypothesis (sound_after sound move.1 move.2 moved) onward

/-- When no operation is in progress and no notice is left, at most one tab leads, however the calls
of the tabs came between each other.

Proof: a tab without news is settled, so the lease of a leader is the one that is stored, and that
has one holder. -/
theorem quiet_race_has_one_leader (config : LeaderConfig) (entries : Entries)
    (moves : List (String × Move)) (race : Race) (ran : (new entries).run config moves = some race)
    (quiet : race.Quiet) : race.leaders.length ≤ 1 := by
  have sound := sound_run (sound_of_new config entries) moves ran
  have holds : ∀ tabId racer, race.tabs.get? tabId = some racer →
      racer.candidate.isLeader = true →
      Lease.IsHeldBy (race.store.memory.peek config.leaseKey) tabId := by
    intro tabId racer present leads
    obtain ⟨idle, heard⟩ := quiet _ (Roster.mem_of_get? present)
    have tab := sound.tabs tabId racer present
    obtain noticed | settled := tab.heeds
    · rw [heard] at noticed
      cases noticed
    · rw [Racer.rest, idle] at settled
      rw [← tab.identity]
      exact settled leads
  refine Roster.those_length_le_one sound.proper ?_
  intro first second racer other left right leads alsoLeads
  exact Lease.holder_unique (holds first racer left leads) (holds second other right alsoLeads)

/-- Two tabs that both read before either of them writes. -/
def crossing : List (String × Move) :=
  [("a", .enter), ("b", .enter), ("a", .start (.init .epoch)), ("b", .start (.init .epoch)),
    ("a", .proceed), ("b", .proceed), ("a", .proceed), ("b", .proceed),
    ("a", .proceed), ("b", .proceed), ("a", .proceed), ("b", .proceed)]

/-- Both tabs hear of the write of the other and look at the lease again. -/
def hearing : List (String × Move) :=
  [("a", .hear .epoch), ("b", .hear .epoch), ("a", .proceed), ("b", .proceed),
    ("a", .proceed), ("b", .proceed), ("a", .proceed), ("b", .proceed)]

/-- Two claims that cross leave two leaders, until both tabs have heard of the other's. -/
theorem crossing_claims_settle :
    (((new {}).run {} crossing).map leaders = some ["a", "b"]) ∧
      ∃ race, (new {}).run {} (crossing ++ hearing) = some race ∧ race.Quiet ∧
        race.leaders.length ≤ 1 := by
  have ends : ((new {}).run {} (crossing ++ hearing)).any
      (fun race => decide race.Quiet) = true := by
    decide +kernel
  obtain ⟨race, ran, quiet⟩ := (Option.any_eq_true _ _).mp ends
  have quiet : race.Quiet := of_decide_eq_true quiet
  exact ⟨by decide +kernel, race, ran, quiet, quiet_race_has_one_leader {} {} _ race ran quiet⟩

end Race

end LiveTabs

import LiveTabs.Proofs.Lease.CleanRelease
import LiveTabs.Proofs.Lease.EvaluationRound

/-!
# One instant

As long as the clock stands still the lease changes hands at most once, whatever the tabs do but
release it, in whatever order and whichever of their calls fail. A lease that was written at this
instant is fresh, so other tabs follow and its owner at most writes the same text once more; and a
text that is no such lease is only ever replaced by one (`Lease.Settles`). So when every change is
announced to all other tabs and these look at the lease again, there is at most one more round of
announcements, and the number of looks is bounded by that of the tabs.

Again this needs settings that outlive the instant. Two tabs whose settings do not find the lease of
the other stale whenever they look at it, and take it from each other without end.
-/

namespace LiveTabs

namespace Lease

/-- Whether a text is a lease as it is written at a given time. -/
def IsDated (now : Instant) (text : Option String) : Prop :=
  ∃ owner, text = some (Lease.mk owner now).render

/-- What becomes of a text at a given time: it stays, or a lease is written where none of that time
was. -/
def Settles (now : Instant) (before after : Option String) : Prop :=
  after = before ∨ (¬ IsDated now before ∧ IsDated now after)

variable {now : Instant} {first second third : Option String}

/-- A lease of the time stays: settling is final, which is what bounds the number of changes. -/
theorem Settles.eq (settles : Settles now first second) (dated : IsDated now first) :
    second = first :=
  settles.resolve_right fun written => written.1 dated

/-- What settles a text twice settles it, so an operation that looks at the lease twice (a poll in
which both the renewal and the check are due) settles it as one that looks once. -/
theorem Settles.trans (settles : Settles now first second) (later : Settles now second third) :
    Settles now first third := by
  obtain rfl | ⟨undated, dated⟩ := settles
  · exact later
  · rw [later.eq dated]
    exact .inr ⟨undated, dated⟩

end Lease

namespace Candidate

open Lease (IsDated Settles)

variable {now : Instant} {candidate : Candidate} {text : Option String}

/-- What a program makes of the candidate and the text: the settings stay the same and the text
settles. -/
def SettlesAs (candidate : Candidate) (now : Instant) (text : Option String) (result : Candidate)
    (after : Option String) : Prop :=
  result.config = candidate.config ∧ Settles now text after

/-- A lease is taken only where there is none of the time, so this is the one write that may change
what is stored, and it settles it. -/
theorem always_acquire_settles (candidate : Candidate) (undated : ¬ IsDated now text) :
    Access.Always (fun decision => candidate.SettlesAs now text decision.1) text
      (candidate.acquire now) :=
  ⟨⟨rfl, .inr ⟨undated, candidate.tabId, rfl⟩⟩, fun _ => ⟨rfl, .inl rfl⟩⟩

/-- A look at the lease settles the text, whichever calls fail: a lease of the time is fresh and is
not taken. -/
theorem always_decide_settles (outlives : candidate.config.Outlives now) (text : Option String) :
    Access.Always (fun decision => candidate.SettlesAs now text decision.1) text
      (candidate.decide now) := by
  have kept : ∀ decided : Candidate, decided.config = candidate.config →
      candidate.SettlesAs now text decided text := fun _ same => ⟨same, .inl rfl⟩
  rintro (_ | _)
  · exact kept _ rfl
  refine always_read candidate.config.leaseKey text ?_ fun _ => kept _ rfl
  cases held : Lease.held text with
  | none =>
    refine candidate.always_acquire_settles ?_
    rintro ⟨owner, rfl⟩
    simp at held
  | some lease =>
    dsimp only
    split
    · rename_i stale
      refine candidate.always_acquire_settles ?_
      rintro ⟨owner, rfl⟩
      rw [Lease.held_render] at held
      cases held
      rw [outlives.fresh owner] at stale
      cases stale
    split
    · split <;> exact kept _ rfl
    · exact kept _ rfl

/-- So does an evaluation, which is a look with the role that follows from it. -/
theorem always_evaluate_settles (outlives : candidate.config.Outlives now) (text : Option String) :
    Access.Always (fun result => candidate.SettlesAs now text result.1) text
      (candidate.evaluate now) :=
  Access.always_bind text _ _ (always_decide_settles outlives text)

/-- A renewal settles the text, whichever calls fail: a lease of the time that is not the
candidate's own ends it, and one that is its own is written once more as it is. -/
theorem always_renew_settles (outlives : candidate.config.Outlives now) (text : Option String) :
    Access.Always (candidate.SettlesAs now text) text (candidate.renew now) := by
  have kept : candidate.SettlesAs now text (candidate.armRenewal now) text := ⟨rfl, .inl rfl⟩
  refine always_read candidate.config.leaseKey text ?_ fun _ => kept
  dsimp only
  split
  · have stays : candidate.disarmRenewal.config.Outlives now := outlives
    exact Access.always_bind text _ _ (always_evaluate_settles stays text)
  · rename_i own
    refine ⟨⟨rfl, ?_⟩, fun _ => kept⟩
    by_cases dated : IsDated now text
    · obtain ⟨owner, rfl⟩ := dated
      have same : owner = candidate.tabId := by
        simpa [Lease.isOwnedBy, Lease.stored] using own
      rw [same]
      exact .inl rfl
    · exact .inr ⟨dated, candidate.tabId, rfl⟩

/-- The part of a poll after the renewal settles the text, whichever calls fail. It is either a
check, which evaluates, or nothing. -/
theorem always_poll_check_settles (outlives : candidate.config.Outlives now) (before : Option Role)
    (text : Option String) :
    Access.Always (fun result => candidate.SettlesAs now text result.1) text
      (if Instant.isDue candidate.checkAt now then do
          let checked ← candidate.check now
          pure (checked, changedRole before checked.role)
        else pure (candidate, changedRole before candidate.role)) := by
  split
  · have armed : (candidate.armCheck now).config.Outlives now := outlives
    exact Access.always_bind text _ _
      (Access.always_bind text _ _ (always_evaluate_settles armed text))
  · exact ⟨rfl, .inl rfl⟩

/-- Whatever is due in a poll, the text settles, whichever calls fail: the renewal settles it first,
and the check finds what the renewal left. -/
theorem always_poll_settles (outlives : candidate.config.Outlives now) (text : Option String) :
    Access.Always (fun result => candidate.SettlesAs now text result.1) text
      (candidate.poll now) := by
  unfold poll
  split
  · refine Access.always_bind text _ _
      (Access.always_mono text _ (always_renew_settles outlives text) ?_)
    rintro renewed after ⟨same, settles⟩
    have still : renewed.config.Outlives now := same ▸ outlives
    refine Access.always_mono after _ (always_poll_check_settles still candidate.role after) ?_
    rintro result last ⟨sameAgain, settlesAgain⟩
    exact ⟨sameAgain.trans same, settles.trans settlesAgain⟩
  · exact always_poll_check_settles outlives candidate.role text

/-- Every operation but a release settles the text, whichever of its calls fail. This is all that
the sequences of turns below need to know of what a tab does. -/
theorem always_act_settles (outlives : candidate.config.Outlives now) (text : Option String)
    {action : Candidate.Action} (atNow : action.IsAt now) (stays : action ≠ .release) :
    Access.Always (fun result => candidate.SettlesAs now text result.1) text
      (candidate.act action) := by
  cases action with
  | init time =>
    cases atNow
    have armed : (candidate.armCheck now).config.Outlives now := outlives
    exact always_evaluate_settles armed text
  | evaluate time =>
    cases atNow
    exact always_evaluate_settles outlives text
  | poll time =>
    cases atNow
    exact always_poll_settles outlives text
  | noticeChange time key =>
    cases atNow
    simp only [act, noticeChange]
    split
    · exact ⟨rfl, .inl rfl⟩
    · exact always_evaluate_settles outlives text
  | release => exact absurd rfl stays

end Candidate

namespace Storage

/-- A host without storage fails every call, whatever text is thought to be there. So a tab without
storage counts as one whose calls all fail, and needs no case of its own. -/
theorem absent_falters {σ : Type} (key : String) (usable : σ → Prop) (text : σ → Option String) :
    (Storage.absent : Storage σ).Falters key usable text where
  get _ _ := .inr ⟨_, rfl⟩
  set _ _ usableNow := ⟨usableNow, .inr ⟨_, rfl, rfl⟩⟩
  remove _ usableNow := ⟨usableNow, .inr ⟨_, rfl, rfl⟩⟩

end Storage

namespace Election

/-- An operation of the tab of some name, and which of its calls fail. -/
structure Turn where
  name : String
  action : Candidate.Action
  faults : List (Option StorageError) := []

/-- The turn of a tab that is told of a change of the lease. -/
def Turn.look (now : Instant) (name : String) (faults : List (Option StorageError)) : Turn :=
  ⟨name, .noticeChange now none, faults⟩

/-- The election after a turn. Nothing happens if there is no tab of that name. -/
def turned (election : Election) (turn : Turn) : Election :=
  (election.falter turn.name turn.action turn.faults).getD election

/-- How often turns change the text under a key. -/
def changes (key : String) : List Turn → Election → Nat
  | [], _ => 0
  | turn :: rest, election =>
    (if (election.turned turn).store.peek key = election.store.peek key then 0 else 1) +
      changes key rest (election.turned turn)

/-- Any number of tabs with one key for their leases, and a store in which reads of it are not held
back. Nothing is said of their roles, deadlines and other settings, nor of what is stored and which
faults the store has. A time to live of a millisecond or more outlives every instant
(`LeaderConfig.outlives_of_milliseconds`). -/
structure Contested (key : String) (now : Instant) (election : Election) : Prop where
  unpinned : SharedStore.Unpinned key election.store
  settings : ∀ name contender, election.contenders.get? name = some contender →
    contender.candidate.config.leaseKey = key ∧ contender.candidate.config.Outlives now

variable {key : String} {now : Instant} {election : Election}

/-- A turn settles the text, and tabs and settings stay the same. It is the step of both inductions
below: that over a sequence of turns, and that over a cascade of looks. -/
theorem Contested.turn (contested : election.Contested key now) (turn : Turn)
    (atNow : turn.action.IsAt now) (stays : turn.action ≠ .release) :
    (election.turned turn).Contested key now ∧
      (election.turned turn).contenders.names = election.contenders.names ∧
      Lease.Settles now (election.store.peek key) ((election.turned turn).store.peek key) := by
  unfold turned falter
  cases found : election.contenders.get? turn.name with
  | none => exact ⟨contested, rfl, .inl rfl⟩
  | some contender =>
    obtain ⟨shared, outlives⟩ := contested.settings turn.name contender found
    have confined := contender.candidate.confined_act atNow
    rw [shared] at confined
    have falters : (storageOf contender).Falters key (SharedStore.Unpinned key)
        (SharedStore.peek · key) := by
      unfold storageOf
      split
      · exact SharedStore.falters key
      · exact Storage.absent_falters key _ _
    obtain ⟨⟨same, settles⟩, unpinned⟩ := Access.run_faulty_always falters _ confined turn.faults
      election.store contested.unpinned
      (Candidate.always_act_settles outlives (election.store.peek key) atNow stays)
    rw [Option.map_some, Option.getD_some]
    refine ⟨⟨unpinned, ?_⟩, Roster.names_update _ _ _, settles⟩
    intro other present there
    rw [Roster.get?_update] at there
    by_cases here : other = turn.name
    · rw [if_pos here, here, found] at there
      cases there
      rw [same]
      exact ⟨shared, outlives⟩
    · rw [if_neg here] at there
      exact contested.settings other present there

/-- While a lease of the time is stored, no turn changes the text: each of them leaves such a lease
to the next one. -/
theorem Contested.changes_eq_zero (contested : election.Contested key now)
    (dated : Lease.IsDated now (election.store.peek key)) (turns : List Turn)
    (admitted : ∀ turn ∈ turns, turn.action.IsAt now ∧ turn.action ≠ .release) :
    changes key turns election = 0 := by
  induction turns generalizing election with
  | nil => rfl
  | cons turn rest inductionHypothesis =>
    obtain ⟨⟨atNow, stays⟩, later⟩ := List.forall_mem_cons.mp admitted
    obtain ⟨still, -, settles⟩ := contested.turn turn atNow stays
    have kept := settles.eq dated
    rw [changes, if_pos kept, inductionHypothesis still (kept ▸ dated) later]

/-- The text is changed at most once, since the turn that changes it leaves a lease of the time, and
nothing changes that.

Proof: by induction on the turns. A turn that leaves the text leaves the count to the rest. -/
theorem Contested.changes_le_one (contested : election.Contested key now) (turns : List Turn)
    (admitted : ∀ turn ∈ turns, turn.action.IsAt now ∧ turn.action ≠ .release) :
    changes key turns election ≤ 1 := by
  induction turns generalizing election with
  | nil => exact Nat.zero_le 1
  | cons turn rest inductionHypothesis =>
    obtain ⟨⟨atNow, stays⟩, later⟩ := List.forall_mem_cons.mp admitted
    obtain ⟨still, -, settles⟩ := contested.turn turn atNow stays
    obtain kept | ⟨-, dated⟩ := settles
    · rw [changes, if_pos kept, Nat.zero_add]
      exact inductionHypothesis still later
    · rw [changes, still.changes_eq_zero dated rest later]
      split <;> decide

/-- Who is told of a turn: all other tabs if it changed the text, and nobody otherwise. -/
def told (key : String) (turn : Turn) (election : Election) : List String :=
  if (election.turned turn).store.peek key = election.store.peek key then []
  else election.contenders.names.filter (· ≠ turn.name)

/-- A number of looks at the lease by tabs that were told of a change, one after the other. The tabs
that are still to look stand in a list. Any of them may be next, and whoever is told of a change
that it makes is added. -/
inductive Cascade (key : String) (now : Instant) :
    Nat → Election × List String → Election × List String → Prop
  | rest (election : Election) (waiting : List String) :
    Cascade key now 0 (election, waiting) (election, waiting)
  | look {election : Election} (earlier later : List String) (name : String)
    (faults : List (Option StorageError)) {count : Nat} {ended : Election × List String}
    (onward : Cascade key now count
      (election.turned (.look now name faults),
        earlier ++ later ++ told key (.look now name faults) election) ended) :
    Cascade key now (count + 1) (election, earlier ++ name :: later) ended

/-- While a lease of the time is stored, only those look that were told before, because no look
changes anything that could be told to others. -/
theorem Cascade.length_le_waiting {count : Nat} {begun ended : Election × List String}
    (cascade : Cascade key now count begun ended) (contested : begun.1.Contested key now)
    (dated : Lease.IsDated now (begun.1.store.peek key)) : count ≤ begun.2.length := by
  induction cascade with
  | rest election waiting => exact Nat.zero_le _
  | look earlier later name faults onward inductionHypothesis =>
    obtain ⟨still, -, settles⟩ := contested.turn (.look now name faults) rfl nofun
    have kept := settles.eq dated
    have bound := inductionHypothesis still (kept ▸ dated)
    rw [told, if_pos kept] at bound
    simp only [List.append_nil, List.length_append, List.length_cons] at bound ⊢
    omega

/-- A cascade has at most as many looks as tabs were told at its beginning and tabs there are, since
all others are told of a change at most once more.

Proof: by induction on the looks. One that leaves the text tells nobody; for one that changes it,
the rest of the cascade is counted by those who wait for their look. -/
theorem Cascade.length_le {count : Nat} {begun ended : Election × List String}
    (cascade : Cascade key now count begun ended) (contested : begun.1.Contested key now) :
    count ≤ begun.2.length + begun.1.contenders.names.length := by
  induction cascade with
  | rest election waiting => exact Nat.zero_le _
  | @look election earlier later name faults _ _ onward inductionHypothesis =>
    obtain ⟨still, names, settles⟩ := contested.turn (.look now name faults) rfl nofun
    have others : (told key (.look now name faults) election).length ≤
        election.contenders.names.length := by
      unfold told
      split
      · exact Nat.zero_le _
      · exact List.length_filter_le _ _
    obtain kept | ⟨-, dated⟩ := settles
    · have bound := inductionHypothesis still
      rw [told, if_pos kept, names] at bound
      simp only [List.append_nil, List.length_append, List.length_cons] at bound ⊢
      omega
    -- The text became a lease of the time, so whoever is told of it finds it settled.
    · have bound := onward.length_le_waiting still dated
      simp only [List.length_append, List.length_cons] at bound ⊢
      omega

/-- While the clock stands still, tabs that share a store and the key of the lease change the stored
text at most once, whatever their roles, deadlines and settings and whatever is stored: they begin,
evaluate, poll and hear of changes of any key as often as they like and in any order, and any of
their calls fail, if the settings of each outlive the instant. So a cascade of announcements comes
to an end, whoever is told of a change and in whatever order they look: all that were told at its
beginning look, and then each tab at most once more.

Proof: every operation settles the text. A lease that was written at the time is fresh for all tabs,
so it stays, and a text that is no such lease is replaced by one or stays. The looks are counted
down by the tabs that were told, which become more only where such a lease takes the place of
another text. -/
theorem lease_changes_once_at_an_instant (contested : election.Contested key now) :
    (∀ turns : List Turn, (∀ turn ∈ turns, turn.action.IsAt now ∧ turn.action ≠ .release) →
      changes key turns election ≤ 1) ∧
    ∀ waiting count ended, Cascade key now count (election, waiting) ended →
      count ≤ waiting.length + election.contenders.names.length :=
  ⟨contested.changes_le_one, fun _ _ _ cascade => cascade.length_le contested⟩

/-- An instant between two milliseconds, long after the lease in `leftovers` was written. -/
def lateInstant : Instant := .after .epoch ⟨20000000000500⟩

/-- The tab that holds the old lease cannot renew it, another one takes it, and then all look at
it. -/
def scramble : List Turn :=
  [⟨"b", .poll lateInstant, [none, some .unavailable]⟩, ⟨"a", .evaluate lateInstant, []⟩,
    ⟨"b", .noticeChange lateInstant none, []⟩, ⟨"c", .init lateInstant, []⟩,
      ⟨"a", .poll lateInstant, []⟩]

/-- The lease changes hands once in it. It also does if the first tab begins by hearing of some
change: it takes the lease, the other two look at it, and nobody is left to be told. -/
theorem scramble_changes_once :
    changes "tabsync:leader" scramble leftovers = 1 ∧
      (∃ ended, Cascade "tabsync:leader" lateInstant 3 (leftovers, ["a"]) (ended, [])) ∧
      ∀ count ended, Cascade "tabsync:leader" lateInstant count (leftovers, ["a"]) ended →
        count ≤ 4 := by
  have contested : leftovers.Contested "tabsync:leader" lateInstant := by
    refine ⟨nofun, ?_⟩
    intro name contender found
    rw [leftovers_share.settings name contender found]
    exact ⟨rfl, LeaderConfig.outlives_of_milliseconds (.inl (by decide))⟩
  obtain ⟨once, ends⟩ := lease_changes_once_at_an_instant contested
  have atMost := once scramble (by simp [scramble, Candidate.Action.IsAt])
  have changed : changes "tabsync:leader" scramble leftovers ≠ 0 := by decide +kernel
  let first := leftovers.turned (.look lateInstant "a" [])
  let second := first.turned (.look lateInstant "b" [])
  have announced : told "tabsync:leader" (.look lateInstant "a" []) leftovers = ["b", "c"] ∧
      told "tabsync:leader" (.look lateInstant "b" []) first = [] ∧
      told "tabsync:leader" (.look lateInstant "c" []) second = [] := by
    decide +kernel
  obtain ⟨both, none, noneAgain⟩ := announced
  refine ⟨by omega, ⟨second.turned (.look lateInstant "c" []), ?_⟩, ends ["a"]⟩
  refine .look [] [] "a" [] ?_
  rw [both]
  refine .look [] ["c"] "b" [] ?_
  rw [none]
  refine .look [] [] "c" [] ?_
  rw [noneAgain]
  exact .rest _ _

/-- Two tabs whose settings do not outlive the instant take the lease from each other whenever they
look at it: in four looks the text changes four times. -/
theorem lease_changes_four_times :
    fleeting.fault? = none ∧ fleetingPair.Shares fleeting ∧
      changes fleeting.leaseKey
        (["a", "b", "a", "b"].map fun name => ⟨name, .evaluate (Instant.epoch.after ⟨500000⟩), []⟩)
        fleetingPair = 4 := by
  refine ⟨by decide, ?_, by decide +kernel⟩
  exact shares_of_checked (by decide) (by decide) ⟨rfl, rfl, rfl, by simp [fleetingPair]⟩

end Election

end LiveTabs

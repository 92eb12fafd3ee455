import LiveTabs.Proofs.Lease.FreshLease
import LiveTabs.Proofs.RosterView

/-!
# Rounds of evaluation

All candidates of one store evaluate once at the same time, in any order and from whatever roles and
deadlines they were left with. The first of them finds a fresh lease or takes the lease; either way
a fresh lease is stored from then on, which no later evaluation of the round changes. So every
candidate ends in line with that one lease: its owner leads and renews, and all others follow.

A lease comes back from the store cut to whole milliseconds. Where the clock shows parts of one, a
lease that was just written is fresh only if it lives for longer than these parts
(`LeaderConfig.Outlives`). That is where the settings enter: a time to live of a millisecond or more
is enough, and so are valid settings that are given in milliseconds. Without it the round fails,
whoever takes part: everybody finds the lease of the one before stale and takes it
(`Shares.everybody_leads`).
-/

namespace LiveTabs

/-- A span without a part of a millisecond. -/
def Duration.IsWhole (span : Duration) : Prop := 1000000 ∣ span.nanoseconds

instance (span : Duration) : Decidable span.IsWhole :=
  inferInstanceAs (Decidable (1000000 ∣ span.nanoseconds))

/-- No fresh lease is stored: the text is none, or its lease is stale. -/
def Lease.IsVacant (now : Instant) (ttl : Duration) (text : Option String) : Prop :=
  ∀ lease, held text = some lease → lease.isStale now ttl = true

namespace LeaderConfig

/-- Settings with which no lease is stale at the time at which it is written: what is cut off when
it is stored is not longer than its time to live. -/
def Outlives (now : Instant) (config : LeaderConfig) : Prop :=
  Instant.elapsed now.truncate now ≤ config.leaseTtl

instance (now : Instant) (config : LeaderConfig) : Decidable (config.Outlives now) :=
  inferInstanceAs (Decidable (Instant.elapsed now.truncate now ≤ config.leaseTtl))

variable {now : Instant} {config : LeaderConfig}

/-- A lease that was written at the time is read back as a stale one if and only if more of the time
was cut off than its time to live, whoever wrote it. -/
theorem stored_is_stale_iff (config : LeaderConfig) (now : Instant) (owner : String) :
    (Lease.mk owner now).stored.isStale now config.leaseTtl = true ↔ ¬config.Outlives now := by
  rw [Lease.isStale, decide_eq_true_iff]
  exact Nat.not_le.symm

/-- So it is read back as a fresh one with settings that outlive the time. -/
theorem Outlives.fresh (outlives : config.Outlives now) (owner : String) :
    (Lease.mk owner now).stored.isStale now config.leaseTtl = false := by
  rw [Bool.eq_false_iff, Ne, stored_is_stale_iff]
  exact not_not_intro outlives

/-- A time to live of a millisecond or more outlives every time, because less than that is cut off,
and nothing is cut off from a whole millisecond. -/
theorem outlives_of_milliseconds
    (long : Duration.ofMilliseconds 1 ≤ config.leaseTtl ∨ now.IsWhole) : config.Outlives now := by
  show (now.nanoseconds - now.truncate.nanoseconds).toNat ≤ config.leaseTtl.nanoseconds
  cases long with
  | inl long =>
    have bound : 1 * 1000000 ≤ config.leaseTtl.nanoseconds := long
    dsimp only [Instant.truncate, Instant.milliseconds]
    rw [Int.fdiv_eq_ediv]
    omega
  | inr whole =>
    rw [Instant.truncate_of_whole now whole]
    omega

/-- Valid settings in milliseconds have a time to live of more than one, which is longer than the
interval of renewal. -/
theorem outlives_of_valid (valid : config.fault? = none)
    (whole : config.heartbeatInterval.IsWhole ∨ now.IsWhole) : config.Outlives now := by
  obtain ⟨positive, longer, -⟩ := intervals_of_valid valid
  refine outlives_of_milliseconds (whole.imp_left ?_)
  rintro ⟨count, interval⟩
  show 1 * 1000000 ≤ config.leaseTtl.nanoseconds
  omega

end LeaderConfig

namespace Candidate

/-- A candidate whose role and renewal agree with a lease. -/
def InLine (lease : Lease) (candidate : Candidate) : Prop :=
  (lease.owner = candidate.tabId ∧ candidate.role = some .leader ∧ candidate.isRenewing = true) ∨
    (lease.owner ≠ candidate.tabId ∧ candidate.role = some .follower ∧ candidate.renewAt = none)

variable {now : Instant} {candidate : Candidate}

/-- A look at a fresh lease leaves it and brings the candidate in line with it. -/
theorem looked_fresh {text : Option String} {lease : Lease} (held : Lease.held text = some lease)
    (fresh : lease.isStale now candidate.config.leaseTtl = false) :
    (candidate.looked now text).2 = text ∧ InLine lease (candidate.looked now text).1 := by
  rw [Bool.eq_false_iff, Ne, Lease.is_stale_iff, Int.not_lt] at fresh
  by_cases owned : lease.owner = candidate.tabId
  · rw [looked_own candidate held fresh owned]
    exact ⟨rfl, .inl ⟨owned, rfl, rfl⟩⟩
  · rw [looked_foreign candidate held fresh owned]
    exact ⟨rfl, .inr ⟨owned, rfl, rfl⟩⟩

/-- After a look a fresh lease is stored that the candidate is in line with: the fresh lease that
was there, if there was one, and otherwise one of the candidate's own. -/
theorem looked_settles (candidate : Candidate) (text : Option String)
    (outlives : candidate.config.Outlives now) :
    ∃ lease, Lease.held (candidate.looked now text).2 = some lease ∧
      lease.isStale now candidate.config.leaseTtl = false ∧
      InLine lease (candidate.looked now text).1 ∧
      (∀ former, Lease.held text = some former →
        former.isStale now candidate.config.leaseTtl = false → former = lease) ∧
      (Lease.held text = some lease ∨ lease.owner = candidate.tabId) := by
  obtain ⟨vacant, took⟩ | ⟨lease, held, young, -⟩ := candidate.looked_cases now text
  · have fresh := outlives.fresh candidate.tabId
    rw [took]
    refine ⟨_, Lease.held_render _, fresh, .inl ⟨rfl, rfl, rfl⟩, ?_, .inr rfl⟩
    intro former held young
    have stale := vacant former held
    rw [Bool.eq_false_iff, Ne, Lease.is_stale_iff] at young
    exact absurd stale young
  · have fresh : lease.isStale now candidate.config.leaseTtl = false := by
      rw [Bool.eq_false_iff, Ne, Lease.is_stale_iff]
      omega
    obtain ⟨kept, inLine⟩ := looked_fresh held fresh
    refine ⟨lease, by rw [kept, held], fresh, inLine, ?_, .inl held⟩
    intro former again _
    rw [held] at again
    exact (Option.some.inj again).symm

/-- A candidate that finds no fresh lease takes it. With settings that do not outlive the time it
leaves a lease that is stale at once, so the next one is in the same position. -/
theorem looked_leaves_vacant (candidate : Candidate) {text : Option String}
    (fleeting : ¬candidate.config.Outlives now)
    (vacant : Lease.IsVacant now candidate.config.leaseTtl text) :
    Lease.IsVacant now candidate.config.leaseTtl (candidate.looked now text).2 ∧
      (candidate.looked now text).1.role = some .leader := by
  obtain ⟨-, took⟩ | ⟨lease, held, young, -⟩ := candidate.looked_cases now text
  · rw [took]
    refine ⟨?_, rfl⟩
    intro lease held
    rw [Lease.held_render] at held
    cases held
    exact (LeaderConfig.stored_is_stale_iff _ now candidate.tabId).mpr fleeting
  · have stale := vacant lease held
    rw [Lease.is_stale_iff] at stale
    omega

end Candidate

namespace Election

/-- The tabs that lead. -/
def leaders (election : Election) : List String :=
  election.contenders.those fun contender => contender.candidate.isLeader

/-- The stored text of the lease. -/
def text (config : LeaderConfig) (election : Election) : Option String :=
  election.store.peek config.leaseKey

/-- Candidates of different tabs with the same settings on one working store. Nothing is said of
their roles and deadlines, nor of what is stored. -/
structure Shares (config : LeaderConfig) (election : Election) : Prop where
  proper : election.contenders.IsProper
  distinct : ∀ first second contender other, election.contenders.get? first = some contender →
    election.contenders.get? second = some other →
    contender.candidate.tabId = other.candidate.tabId → first = second
  settings : ∀ name contender, election.contenders.get? name = some contender →
    contender.candidate.config = config
  equipped : ∀ name contender, election.contenders.get? name = some contender →
    contender.hasStorage = true
  works : election.store.Works config.leaseKey

/-- The stored lease is fresh and belongs to a tab that has no candidate here. -/
def HeldOutside (config : LeaderConfig) (now : Instant) (election : Election) : Prop :=
  ∃ lease, Lease.held (election.text config) = some lease ∧
    lease.isStale now config.leaseTtl = false ∧
    ∀ name contender, election.contenders.get? name = some contender →
      contender.candidate.tabId ≠ lease.owner

/-- The election after the candidates of some names evaluated one after the other at one time. -/
def evaluateAll (now : Instant) (election : Election) (names : List String) : Option Election :=
  names.foldlM
    (fun election name => (election.act name (.evaluate now)).map fun acted => acted.2.2) election

variable {config : LeaderConfig} {now : Instant} {election : Election}

/-- Candidates go on sharing the store when one of them is replaced by a later one of its tab and
the store is left working. -/
theorem Shares.replace (shares : election.Shares config) {name : String} {contender : Contender}
    (found : election.contenders.get? name = some contender) {after : Candidate}
    (same : contender.candidate.SameTab after) {store : SharedStore}
    (works : store.Works config.leaseKey) {next : Election}
    (replaced : next = {
      contenders := election.contenders.update name fun contender =>
        { contender with candidate := after }
      store }) :
    next.Shares config ∧ ∀ other, next.contenders.get? other =
      if other = name then some { contender with candidate := after }
      else election.contenders.get? other := by
  subst replaced
  have view : ∀ other, (election.contenders.update name fun contender =>
      { contender with candidate := after }).get? other =
      if other = name then some { contender with candidate := after }
      else election.contenders.get? other := by
    intro other
    rw [Roster.get?_update]
    by_cases here : other = name
    · rw [if_pos here, if_pos here, here, found]
      rfl
    · rw [if_neg here, if_neg here]
  -- Whoever stands under a name now stood there before, with the same tab, settings and storage.
  have former : ∀ other present, (election.contenders.update name fun contender =>
      { contender with candidate := after }).get? other = some present →
      ∃ old, election.contenders.get? other = some old ∧ old.candidate.SameTab present.candidate ∧
        present.hasStorage = old.hasStorage := by
    intro other present there
    rw [view] at there
    by_cases here : other = name
    · rw [if_pos here] at there
      cases there
      exact ⟨contender, here ▸ found, same, rfl⟩
    · rw [if_neg here] at there
      exact ⟨present, there, ⟨rfl, rfl⟩, rfl⟩
  refine ⟨⟨shares.proper.update _ _, ?_, ?_, ?_, works⟩, view⟩
  · intro first second present other left right equal
    obtain ⟨old, foundOld, sameOld, -⟩ := former first present left
    obtain ⟨older, foundOlder, sameOlder, -⟩ := former second other right
    rw [sameOld.tabId, sameOlder.tabId] at equal
    exact shares.distinct first second old older foundOld foundOlder equal
  · intro other present there
    obtain ⟨old, foundOld, sameOld, -⟩ := former other present there
    rw [sameOld.config]
    exact shares.settings other old foundOld
  · intro other present there
    obtain ⟨old, foundOld, -, storage⟩ := former other present there
    rw [storage]
    exact shares.equipped other old foundOld

/-- An evaluation changes one candidate and the text as a look at the lease does, and nothing
else. -/
theorem Shares.evaluate (shares : election.Shares config) {name : String} {contender : Contender}
    (found : election.contenders.get? name = some contender) (now : Instant) :
    ∃ next, (election.act name (.evaluate now)).map (fun acted => acted.2.2) = some next ∧
      next.Shares config ∧ next.contenders.names = election.contenders.names ∧
      next.text config = (contender.candidate.looked now (election.text config)).2 ∧
      ∀ other, next.contenders.get? other =
        if other = name then some { contender with
          candidate := (contender.candidate.looked now (election.text config)).1 }
        else election.contenders.get? other := by
  have atNow : (Candidate.Action.evaluate now).IsAt now := rfl
  have confined := contender.candidate.confined_act atNow
  rw [shares.settings name contender found] at confined
  have seen : storageOf contender = SharedStore.storage :=
    if_pos (shares.equipped name contender found)
  obtain ⟨ended, left, works⟩ := Candidate.run_act (SharedStore.serves config.leaseKey)
    contender.candidate (.evaluate now) confined election.store shares.works
  have same := contender.candidate.same_tab_looked now (election.text config)
  rw [← seen] at ended left works
  obtain ⟨sharing, view⟩ := shares.replace found (ended ▸ same) works rfl
  refine ⟨_, by rw [act, found]; rfl, sharing, Roster.names_update _ _ _, left, ?_⟩
  intro other
  rw [view other, ended]
  rfl

/-- What a look leaves of the stored text and makes of whoever looks carries over to evaluations one
after the other: the text is kept so, and whoever was like that or evaluated is like that in the
end.

Proof: by induction on the names. Each evaluation is one look, which leaves the text fit for the
next one and does not touch the other candidates. -/
theorem Shares.evaluate_each (shares : election.Shares config) (kept : Option String → Prop)
    (reached : Candidate → Prop)
    (looks : ∀ (candidate : Candidate) (text : Option String), candidate.config = config →
      kept text → kept (candidate.looked now text).2 ∧ reached (candidate.looked now text).1)
    (begun : kept (election.text config)) (names : List String)
    (enrolled : ∀ name ∈ names, name ∈ election.contenders.names) :
    ∃ last, election.evaluateAll now names = some last ∧ last.Shares config ∧
      last.contenders.names = election.contenders.names ∧ kept (last.text config) ∧
      ∀ name contender, last.contenders.get? name = some contender →
        ∃ former, election.contenders.get? name = some former ∧
          contender.candidate.tabId = former.candidate.tabId ∧
          (name ∈ names ∨ reached former.candidate → reached contender.candidate) := by
  induction names generalizing election with
  | nil =>
    refine ⟨election, rfl, shares, rfl, begun, ?_⟩
    intro name contender found
    exact ⟨contender, found, rfl, fun known => by simpa using known⟩
  | cons first rest inductionHypothesis =>
    obtain ⟨contender, found⟩ :=
      (Roster.mem_names_iff _ _).mp (enrolled first List.mem_cons_self)
    have settings := shares.settings first contender found
    obtain ⟨next, acted, sharing, names, text, view⟩ := shares.evaluate found now
    obtain ⟨still, like⟩ := looks contender.candidate (election.text config) settings begun
    obtain ⟨last, ran, sharingLast, namesLast, keptLast, members⟩ :=
      inductionHypothesis sharing (text ▸ still) fun name listed =>
        names ▸ enrolled name (List.mem_cons_of_mem first listed)
    refine ⟨last, ?_, sharingLast, namesLast.trans names, keptLast, ?_⟩
    · rw [evaluateAll, List.foldlM_cons, acted]
      exact ran
    · intro name present there
      obtain ⟨middle, between, sameTab, known⟩ := members name present there
      rw [view] at between
      by_cases here : name = first
      · rw [if_pos here] at between
        cases between
        have same := contender.candidate.same_tab_looked now (election.text config)
        exact ⟨contender, here ▸ found, sameTab.trans same.tabId, fun _ => known (.inr like)⟩
      · rw [if_neg here] at between
        refine ⟨middle, between, sameTab, fun before => known ?_⟩
        exact before.imp (fun listed => (List.mem_cons.mp listed).resolve_left here) id

/-- Evaluations that find a fresh lease leave it, bring the evaluating candidates in line with it
and leave in line who was. This is what the rest of a round does, once its first evaluation has
settled which lease counts. -/
theorem Shares.evaluate_all_fresh (shares : election.Shares config) {lease : Lease}
    (held : Lease.held (election.text config) = some lease)
    (fresh : lease.isStale now config.leaseTtl = false) (names : List String)
    (enrolled : ∀ name ∈ names, name ∈ election.contenders.names) :
    ∃ last, election.evaluateAll now names = some last ∧ last.Shares config ∧
      last.contenders.names = election.contenders.names ∧
      Lease.held (last.text config) = some lease ∧
      ∀ name contender, last.contenders.get? name = some contender →
        ∃ former, election.contenders.get? name = some former ∧
          contender.candidate.tabId = former.candidate.tabId ∧
          (name ∈ names ∨ former.candidate.InLine lease → contender.candidate.InLine lease) := by
  refine shares.evaluate_each (Lease.held · = some lease) (·.InLine lease) ?_ held names enrolled
  intro candidate text settings there
  obtain ⟨same, inLine⟩ := candidate.looked_fresh there (settings ▸ fresh)
  exact ⟨same.symm ▸ there, inLine⟩

/-- Where the settings do not outlive the time and no fresh lease is stored, everybody who evaluates
leads afterwards, however many they are: each of them finds the lease of the one before stale and
takes it. This is why a round needs settings that outlive it. -/
theorem Shares.everybody_leads (shares : election.Shares config) (fleeting : ¬config.Outlives now)
    (vacant : Lease.IsVacant now config.leaseTtl (election.text config)) {names : List String}
    (enrolled : ∀ name ∈ names, name ∈ election.contenders.names) :
    ∃ last, election.evaluateAll now names = some last ∧
      ∀ name ∈ names, name ∈ last.leaders := by
  have looks : ∀ (candidate : Candidate) (text : Option String), candidate.config = config →
      Lease.IsVacant now config.leaseTtl text →
      Lease.IsVacant now config.leaseTtl (candidate.looked now text).2 ∧
        (candidate.looked now text).1.role = some .leader := by
    rintro candidate text rfl before
    exact candidate.looked_leaves_vacant fleeting before
  obtain ⟨last, ran, -, same, -, members⟩ := shares.evaluate_each
    (Lease.IsVacant now config.leaseTtl) (·.role = some .leader) looks vacant names enrolled
  refine ⟨last, ran, ?_⟩
  intro name listed
  obtain ⟨contender, found⟩ := (Roster.mem_names_iff _ _).mp (same.symm ▸ enrolled name listed)
  obtain ⟨former, -, -, settled⟩ := members name contender found
  have leads : contender.candidate.role = some .leader := settled (.inl listed)
  exact Roster.mem_those found (by simp [Candidate.isLeader, leads])

/-- After a round there is one lease that all candidates are in line with. One of them holds it
unless a fresh lease was held outside. -/
theorem Shares.evaluate_all (shares : election.Shares config) (outlives : config.Outlives now)
    {names : List String} (everybody : names.Perm election.contenders.names)
    (nonempty : names ≠ []) :
    ∃ last lease, election.evaluateAll now names = some last ∧ last.Shares config ∧
      last.contenders.names = election.contenders.names ∧
      Lease.held (last.text config) = some lease ∧
      (∀ name contender, last.contenders.get? name = some contender →
        ∃ former, election.contenders.get? name = some former ∧
          contender.candidate.tabId = former.candidate.tabId ∧
          contender.candidate.InLine lease) ∧
      (election.HeldOutside config now ↔ ∀ name contender,
        election.contenders.get? name = some contender →
          contender.candidate.tabId ≠ lease.owner) := by
  cases names with
  | nil => exact absurd rfl nonempty
  | cons first rest =>
    have enrolled : ∀ name ∈ first :: rest, name ∈ election.contenders.names :=
      fun name listed => everybody.subset listed
    obtain ⟨contender, found⟩ :=
      (Roster.mem_names_iff _ _).mp (enrolled first List.mem_cons_self)
    have settings := shares.settings first contender found
    obtain ⟨next, acted, sharing, names, text, view⟩ := shares.evaluate found now
    have tabId := (contender.candidate.same_tab_looked now (election.text config)).tabId
    -- The first evaluation settles which lease counts for the rest of the round.
    obtain ⟨lease, held, fresh, inLine, same, origin⟩ :=
      contender.candidate.looked_settles (election.text config) (settings ▸ outlives)
    rw [settings] at fresh same
    rw [← text] at held
    obtain ⟨last, ran, sharingLast, namesLast, heldLast, members⟩ :=
      sharing.evaluate_all_fresh held fresh rest fun name listed =>
        names ▸ enrolled name (List.mem_cons_of_mem first listed)
    refine ⟨last, lease, ?_, sharingLast, namesLast.trans names, heldLast, ?_, ?_⟩
    · rw [evaluateAll, List.foldlM_cons, acted]
      exact ran
    · intro name present there
      obtain ⟨middle, between, sameTab, known⟩ := members name present there
      rw [view] at between
      by_cases here : name = first
      · rw [if_pos here] at between
        cases between
        exact ⟨contender, here ▸ found, sameTab.trans tabId, known (.inr inLine)⟩
      · rw [if_neg here] at between
        have listed : name ∈ election.contenders.names :=
          (Roster.mem_names_iff _ _).mpr ⟨middle, between⟩
        have later := (List.mem_cons.mp (everybody.symm.subset listed)).resolve_left here
        exact ⟨middle, between, sameTab, known (.inl later)⟩
    · constructor
      · rintro ⟨former, there, young, foreign⟩
        rw [same former there young] at foreign
        exact foreign
      · intro foreign
        have stored := origin.resolve_right (foreign first contender found).symm
        exact ⟨lease, stored, fresh, foreign⟩

/-- When all candidates of one working store have evaluated once at the same time, in any order and
from any roles, deadlines and stored text, at most one of them leads, if what is cut off when a
lease is stored at that time is not longer than its time to live. That one holds the stored lease
and renews it, and all others follow without a renewal. Exactly one leads unless a fresh lease was
held outside, and then none does.

Proof: all candidates are in line with one lease, and ids are distinct, so no two of them are its
owner. -/
theorem round_has_one_leader (outlives : config.Outlives now) (shares : election.Shares config)
    {names : List String} (everybody : names.Perm election.contenders.names)
    (nonempty : names ≠ []) :
    ∃ last, election.evaluateAll now names = some last ∧
      last.contenders.names = election.contenders.names ∧ last.leaders.length ≤ 1 ∧
      (∀ name contender, last.contenders.get? name = some contender →
        (contender.candidate.role = some .leader ∧ contender.candidate.isRenewing = true ∧
          Lease.IsHeldBy (last.text config) contender.candidate.tabId) ∨
        (contender.candidate.role = some .follower ∧ contender.candidate.renewAt = none)) ∧
      (¬ election.HeldOutside config now → last.leaders.length = 1) ∧
      (election.HeldOutside config now → last.leaders = []) := by
  obtain ⟨last, lease, ran, sharing, same, held, members, outside⟩ :=
    shares.evaluate_all outlives everybody nonempty
  have owns : ∀ name contender, last.contenders.get? name = some contender →
      contender.candidate.isLeader = true → contender.candidate.tabId = lease.owner := by
    intro name contender found leads
    obtain ⟨-, -, -, ⟨owner, -, -⟩ | ⟨-, follows, -⟩⟩ := members name contender found
    · exact owner.symm
    · simp [Candidate.isLeader, follows] at leads
  have one : last.leaders.length ≤ 1 := by
    refine Roster.those_length_le_one sharing.proper ?_
    intro first second contender other left right leads alsoLeads
    refine sharing.distinct first second contender other left right ?_
    rw [owns first contender left leads, owns second other right alsoLeads]
  refine ⟨last, ran, same, one, ?_, ?_, ?_⟩
  · intro name contender found
    obtain ⟨-, -, -, ⟨owner, leads, renews⟩ | ⟨-, follows, quiet⟩⟩ := members name contender found
    · exact .inl ⟨leads, renews, lease, held, owner⟩
    · exact .inr ⟨follows, quiet⟩
  · intro within
    obtain ⟨name, former, foundFormer, owner⟩ : ∃ name former,
        election.contenders.get? name = some former ∧ former.candidate.tabId = lease.owner := by
      simpa [outside] using within
    have enrolled : name ∈ last.contenders.names :=
      same ▸ (Roster.mem_names_iff _ _).mpr ⟨former, foundFormer⟩
    obtain ⟨contender, found⟩ := (Roster.mem_names_iff _ _).mp enrolled
    obtain ⟨again, foundAgain, sameTab, line⟩ := members name contender found
    rw [foundFormer] at foundAgain
    cases foundAgain
    obtain ⟨-, leads, -⟩ | ⟨foreign, -, -⟩ := line
    · have listed : name ∈ last.leaders :=
        Roster.mem_those found (by simp [Candidate.isLeader, leads])
      have present := List.length_pos_of_mem listed
      omega
    · exact absurd (sameTab.trans owner).symm foreign
  · intro elsewhere
    refine List.eq_nil_iff_forall_not_mem.mpr ?_
    intro name listed
    obtain ⟨contender, found, leads⟩ := Roster.has_of_mem_those sharing.proper listed
    obtain ⟨former, foundFormer, sameTab, -⟩ := members name contender found
    exact outside.mp elsewhere name former foundFormer
      (sameTab.symm.trans (owns name contender found leads))

/-- Candidates that stand under the ids of their tabs share a store if each of them has the settings
and storage, which can be checked one by one. -/
theorem shares_of_checked (proper : election.contenders.names.Nodup)
    (checked : ∀ member ∈ election.contenders.members, member.2.candidate.tabId = member.1 ∧
      member.2.candidate.config = config ∧ member.2.hasStorage = true)
    (works : election.store.Works config.leaseKey) : election.Shares config := by
  have members : ∀ name contender, election.contenders.get? name = some contender →
      contender.candidate.tabId = name ∧ contender.candidate.config = config ∧
        contender.hasStorage = true :=
    fun name contender found => checked _ (Roster.mem_of_get? found)
  refine ⟨proper, ?_, ?_, ?_, works⟩
  · intro first second contender other left right same
    rw [(members first contender left).1, (members second other right).1] at same
    exact same
  · exact fun name contender found => (members name contender found).2.1
  · exact fun name contender found => (members name contender found).2.2

/-- Two tabs that lead, one of them without a renewal, and one that was released, with a lease that
has not been renewed for long. -/
def leftovers : Election where
  contenders := ⟨[
    ("a", ⟨{ tabId := "a", config := {}, role := some .leader }, true⟩),
    ("b", ⟨{ tabId := "b", config := {}, role := some .leader,
             renewAt := some (.sinceEpoch 4000) }, true⟩),
    ("c", ⟨{ tabId := "c", config := {} }, true⟩)]⟩
  store := { memory := { entries := ⟨[("tabsync:leader", (Lease.mk "b" .epoch).render)]⟩ } }

/-- The tabs share the store. -/
theorem leftovers_share : leftovers.Shares {} :=
  shares_of_checked (by decide) (by decide) ⟨rfl, rfl, rfl, by simp [leftovers]⟩

/-- Two leaders with an old lease become one in a round that the third tab begins, at an instant
between two milliseconds. -/
theorem one_leader_of_leftovers :
    leftovers.leaders = ["a", "b"] ∧
      ∃ last, leftovers.evaluateAll (Instant.epoch.after ⟨20000000000500⟩) ["c", "a", "b"] =
        some last ∧ last.leaders.length = 1 := by
  have stale : (Lease.held (leftovers.text {})).all (fun lease => lease.isStale
      (Instant.epoch.after ⟨20000000000500⟩) (LeaderConfig.leaseTtl {})) = true := by
    decide +kernel
  have within : ¬ leftovers.HeldOutside {} (Instant.epoch.after ⟨20000000000500⟩) := by
    rintro ⟨lease, held, fresh, -⟩
    rw [held, Option.all_some, fresh] at stale
    cases stale
  have everybody : ["c", "a", "b"].Perm leftovers.contenders.names := by decide
  have outlives : LeaderConfig.Outlives (Instant.epoch.after ⟨20000000000500⟩) {} := by decide
  obtain ⟨last, ran, -, -, -, one, -⟩ :=
    round_has_one_leader outlives leftovers_share everybody (by decide)
  exact ⟨by decide, last, ran, one within⟩

/-- Valid settings with a time to live of two nanoseconds. -/
def fleeting : LeaderConfig := { heartbeatInterval := ⟨1⟩, leaseTtl := ⟨2⟩ }

/-- Two new tabs with these settings and a store that holds nothing. -/
def fleetingPair : Election where
  contenders := ⟨[
    ("a", ⟨{ tabId := "a", config := fleeting }, true⟩),
    ("b", ⟨{ tabId := "b", config := fleeting }, true⟩)]⟩

/-- In the middle of a millisecond both of them lead after a round, although the settings are valid
and no lease is held by anybody else: what was cut off from the lease of the first one is longer
than two nanoseconds. -/
theorem two_leaders_between_milliseconds :
    fleeting.fault? = none ∧ fleetingPair.Shares fleeting ∧
      ¬fleetingPair.HeldOutside fleeting (Instant.epoch.after ⟨500000⟩) ∧
      (fleetingPair.evaluateAll (Instant.epoch.after ⟨500000⟩) ["a", "b"]).map leaders =
        some ["a", "b"] := by
  refine ⟨by decide, ?_, ?_, by decide +kernel⟩
  · exact shares_of_checked (by decide) (by decide) ⟨rfl, rfl, rfl, by simp [fleetingPair]⟩
  · rintro ⟨lease, held, -⟩
    have nothing : Lease.held (fleetingPair.text fleeting) = none := rfl
    rw [nothing] at held
    cases held

end Election

end LiveTabs

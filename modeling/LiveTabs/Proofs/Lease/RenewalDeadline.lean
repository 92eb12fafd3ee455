import LiveTabs.Proofs.Lease.FreshLease
import LiveTabs.Proofs.Lease.Scene

/-!
# Renewals and the time to live

A leader has to renew its lease before the lease grows stale. Taking the lease and renewing it set
the next renewal one interval ahead, which is in time since the interval is shorter than the time to
live. A tab that finds a fresh lease under its own id and has no renewal set also sets it one
interval ahead, but counted from now and not from when the lease was taken. That is too late when
the lease is about to grow stale, as it may be after a tab was closed and opened again.
`renewals_in_time_iff` says that nothing else leads to a late renewal.
-/

namespace LiveTabs

namespace Candidate

/-- A candidate that is going to renew if it leads. -/
def Renewing (candidate : Candidate) : Prop :=
  candidate.role = some .leader → candidate.renewAt ≠ none

/-- A candidate whose renewal, if it is set, comes before the stored lease grows stale, if that is
its own. -/
def Timely (candidate : Candidate) (text : Option String) : Prop :=
  ∀ lease ∈ Lease.held text, lease.owner = candidate.tabId → ∀ deadline ∈ candidate.renewAt,
    deadline.nanoseconds ≤
      lease.acquiredAt.nanoseconds + candidate.config.leaseTtl.nanoseconds

/-- Without a renewal, the candidate finds a fresh lease of its own that grows stale before one
interval of renewal is over. -/
def FindsLate (candidate : Candidate) (now : Instant) (text : Option String) : Prop :=
  candidate.renewAt = none ∧ ∃ lease ∈ Lease.held text, lease.owner = candidate.tabId ∧
    now.nanoseconds ≤ lease.acquiredAt.nanoseconds + candidate.config.leaseTtl.nanoseconds ∧
    lease.acquiredAt.nanoseconds + candidate.config.leaseTtl.nanoseconds <
      (now.after candidate.config.heartbeatInterval).nanoseconds

instance (candidate : Candidate) (now : Instant) (text : Option String) :
    Decidable (candidate.FindsLate now text) :=
  inferInstanceAs (Decidable (_ ∧ ∃ lease ∈ Lease.held text, _))

variable {now : Instant} {candidate : Candidate} {text : Option String}

/-- Who leads after a look at the lease is going to renew. Only where calls fail does a leader have
no renewal set. -/
theorem renewing_looked (candidate : Candidate) (now : Instant) (text : Option String) :
    (candidate.looked now text).1.Renewing := by
  obtain ⟨-, took⟩ | ⟨_, _, _, ⟨-, kept⟩ | ⟨-, follows⟩⟩ := candidate.looked_cases now text
  · rw [took]
    exact fun _ => by simp [armRenewal]
  · rw [kept]
    exact fun _ => by simp
  · rw [follows]
    intro leads
    cases leads

/-- The regular look of poll keeps a renewing candidate renewing, be it due or not. -/
theorem Renewing.polled_check (renewing : candidate.Renewing) (now : Instant)
    (text : Option String) : (candidate.polledCheck now text).1.Renewing := by
  unfold polledCheck
  split
  · exact renewing_looked _ now text
  · exact renewing

/-- Every operation keeps a renewing candidate renewing, as long as no call fails. -/
theorem Renewing.respond (renewing : candidate.Renewing) (text : Option String)
    (action : Candidate.Action) : (candidate.respond text action).1.Renewing := by
  cases action with
  | init now => exact renewing_looked _ now text
  | evaluate now => exact renewing_looked _ now text
  | poll now =>
    refine Renewing.polled_check ?_ now _
    unfold polledRenewal renewed
    split
    · split
      · exact renewing_looked _ now text
      · exact fun _ => by simp [armRenewal]
    · exact renewing
  | noticeChange now key =>
    simp only [Candidate.respond]
    split
    · exact renewing
    · exact renewing_looked _ now text
  | release =>
    intro leads
    cases leads

/-- A renewal that is not set is not late. -/
theorem timely_of_unset (unset : candidate.renewAt = none) : candidate.Timely text := by
  intro lease _ _ deadline armed
  rw [unset] at armed
  cases armed

/-- A candidate that has just written its lease renews it in time: the renewal is one interval
ahead, and the lease lives for longer. -/
theorem timely_of_claim (valid : candidate.config.fault? = none) (whole : now.IsWhole)
    (role : Option Role) :
    Timely { candidate.armRenewal now with role } (some (candidate.claim now).render) := by
  intro lease held _ deadline armed
  rw [Lease.held_render, Lease.stored_of_whole _ whole] at held
  cases held
  cases armed
  have bound := Instant.after_le now candidate.config.heartbeatInterval
  have intervals := LeaderConfig.intervals_of_valid valid
  show (now.after candidate.config.heartbeatInterval).nanoseconds ≤
    now.nanoseconds + candidate.config.leaseTtl.nanoseconds
  omega

/-- A look at the lease that does not find it late keeps the renewal in time. It may set a renewal
one interval from now, which is too late only for a lease found late. -/
theorem Timely.looked (timely : candidate.Timely text) (valid : candidate.config.fault? = none)
    (whole : now.IsWhole) (notLate : ¬ candidate.FindsLate now text) :
    (candidate.looked now text).1.Timely (candidate.looked now text).2 := by
  obtain ⟨-, took⟩ | ⟨lease, held, fresh, ⟨owned, kept⟩ | ⟨-, follows⟩⟩ :=
    candidate.looked_cases now text
  · rw [took]
    exact timely_of_claim valid whole _
  · rw [kept]
    intro other again _ deadline armed
    rw [held] at again
    cases again
    cases renewal : candidate.renewAt with
    | some before =>
      rw [renewal] at armed
      cases armed
      exact timely lease held owned before renewal
    | none =>
      rw [renewal] at armed
      cases armed
      refine Int.not_lt.mp fun late => notLate ⟨renewal, lease, held, owned, fresh, late⟩
  · rw [follows]
    exact timely_of_unset rfl

/-- A renewal that is due leaves the next one in time, and the regular look after it finds no lease
late: it is the one just written, or that of another tab. -/
theorem timely_renewed (valid : candidate.config.fault? = none) (whole : now.IsWhole) :
    (candidate.renewed now text).1.Timely (candidate.renewed now text).2 ∧
      ¬ (candidate.renewed now text).1.FindsLate now (candidate.renewed now text).2 := by
  unfold Candidate.renewed
  split
  · rename_i displaced
    obtain ⟨-, took⟩ | ⟨lease, held, -, ⟨owned, -⟩ | ⟨foreign, follows⟩⟩ :=
      candidate.disarmRenewal.looked_cases now text
    · rw [took]
      refine ⟨timely_of_claim valid whole _, ?_⟩
      intro late
      simp [FindsLate, armRenewal] at late
    · exact absurd displaced (by simp [isDisplaced, held, Lease.isOwnedBy, owned, disarmRenewal])
    · rw [follows]
      refine ⟨timely_of_unset rfl, ?_⟩
      rintro ⟨-, other, again, owned, -⟩
      rw [held] at again
      cases again
      exact foreign owned
  · refine ⟨timely_of_claim valid whole candidate.role, ?_⟩
    intro late
    simp [FindsLate, armRenewal] at late

/-- The regular look of poll keeps the renewal in time unless it finds the lease late. -/
theorem Timely.polled_check (timely : candidate.Timely text)
    (valid : candidate.config.fault? = none) (whole : now.IsWhole)
    (notLate : Instant.isDue candidate.checkAt now = true → ¬ candidate.FindsLate now text) :
    (candidate.polledCheck now text).1.Timely (candidate.polledCheck now text).2 := by
  unfold polledCheck
  split
  · rename_i due
    have armed : (candidate.armCheck now).Timely text := timely
    exact armed.looked valid whole (notLate due)
  · exact timely

/-- Every operation keeps the renewal in time unless it finds the lease late. This is the step of
the invariant. -/
theorem Timely.respond (timely : candidate.Timely text) (valid : candidate.config.fault? = none)
    (whole : now.IsWhole) {action : Candidate.Action} (atNow : action.IsAt now)
    (notLate : candidate.Looks action → ¬ candidate.FindsLate now text) :
    (candidate.respond text action).1.Timely (candidate.respond text action).2 := by
  cases action with
  | init time =>
    cases atNow
    have armed : (candidate.armCheck now).Timely text := timely
    exact armed.looked valid whole (notLate trivial)
  | evaluate time =>
    cases atNow
    exact timely.looked valid whole (notLate trivial)
  | poll time =>
    cases atNow
    have same := candidate.same_tab_polled_renewal now text
    refine Timely.polled_check ?_ (same.config ▸ valid) whole ?_
    · unfold polledRenewal
      split
      · exact (timely_renewed valid whole).1
      · exact timely
    · unfold polledRenewal
      split
      · exact fun _ => (timely_renewed valid whole).2
      · exact fun due => notLate (.inr due)
  | noticeChange time key =>
    cases atNow
    simp only [Candidate.respond]
    split
    · exact timely
    · rename_i concerned
      rw [not_or, Classical.not_not] at concerned
      exact timely.looked valid whole (notLate concerned)
  | release => exact timely_of_unset rfl

/-- A tab that looks at its lease late sets its renewal for when the lease is stale. -/
theorem FindsLate.respond (late : candidate.FindsLate now text) {action : Candidate.Action}
    (atNow : action.IsAt now) (looks : candidate.Looks action) :
    (candidate.respond text action).1.role = some .leader ∧
      (candidate.respond text action).2 = text ∧
      (candidate.respond text action).1.renewAt =
        some (now.after candidate.config.heartbeatInterval) := by
  obtain ⟨unset, lease, held, owned, fresh, -⟩ := late
  have look : candidate.looked now text = ({ candidate with
      role := some .leader
      renewAt := some (now.after candidate.config.heartbeatInterval) }, text) := by
    rw [candidate.looked_own held fresh owned, unset]
    rfl
  have armedLook : (candidate.armCheck now).looked now text = ({ candidate.armCheck now with
      role := some .leader
      renewAt := some (now.after candidate.config.heartbeatInterval) }, text) := by
    rw [looked_own (candidate.armCheck now) held fresh owned, armCheck, unset]
    rfl
  cases action with
  | init time =>
    cases atNow
    rw [Candidate.respond, armedLook]
    exact ⟨rfl, rfl, rfl⟩
  | evaluate time =>
    cases atNow
    rw [Candidate.respond, look]
    exact ⟨rfl, rfl, rfl⟩
  | poll time =>
    cases atNow
    have waits : Instant.isDue candidate.renewAt now = false := by rw [unset]; rfl
    have due : Instant.isDue candidate.checkAt now = true := by
      simpa [Looks, waits] using looks
    have response : candidate.respond text (.poll now) =
        (candidate.armCheck now).looked now text := by
      simp [Candidate.respond, polled, polledRenewal, waits, polledCheck, due]
    rw [response, armedLook]
    exact ⟨rfl, rfl, rfl⟩
  | noticeChange time key =>
    cases atNow
    have response : candidate.respond text (.noticeChange now key) =
        candidate.looked now text := by
      simp [Candidate.respond, looks.1, looks.2]
    rw [response, look]
    exact ⟨rfl, rfl, rfl⟩
  | release => exact looks.elim

end Candidate

namespace Scene

/-- After the operation of a tab that leads, the tab is going to renew. -/
def Turn.Renews (turn : Turn) : Prop :=
  match turn.deed with
  | .act tabId _ => ∀ candidate ∈ turn.after.candidate? tabId, candidate.role = some .leader →
      candidate.renewAt ≠ none
  | _ => True

/-- After the operation of a tab that leads on a lease of its own, the tab is going to renew before
the lease grows stale. -/
def Turn.RenewsInTime (config : LeaderConfig) (turn : Turn) : Prop :=
  match turn.deed with
  | .act tabId _ => ∀ candidate ∈ turn.after.candidate? tabId, candidate.role = some .leader →
      ∀ lease ∈ Lease.held (turn.after.text config), lease.owner = tabId →
        ∃ deadline ∈ candidate.renewAt, deadline.nanoseconds ≤
          lease.acquiredAt.nanoseconds + config.leaseTtl.nanoseconds
  | _ => True

/-- A tab without a renewal looks at the lease and finds a fresh one of its own too late. -/
def Turn.FindsLate (config : LeaderConfig) (turn : Turn) : Prop :=
  match turn.deed with
  | .act tabId action => ∃ candidate ∈ turn.before.candidate? tabId,
      candidate.Looks action ∧
        candidate.FindsLate turn.before.now (turn.before.text config)
  | _ => False

instance (config : LeaderConfig) : (turn : Turn) → Decidable (turn.RenewsInTime config)
  | ⟨_, .act tabId _, after⟩ =>
    inferInstanceAs (Decidable (∀ candidate ∈ after.candidate? tabId, _))
  | ⟨_, .pass _, _⟩ | ⟨_, .join _, _⟩ | ⟨_, .dropOut _, _⟩ | ⟨_, .falter _ _ _, _⟩ =>
    inferInstanceAs (Decidable True)

instance (config : LeaderConfig) : (turn : Turn) → Decidable (turn.FindsLate config)
  | ⟨before, .act tabId _, _⟩ =>
    inferInstanceAs (Decidable (∃ candidate ∈ before.candidate? tabId, _ ∧ _))
  | ⟨_, .pass _, _⟩ | ⟨_, .join _, _⟩ | ⟨_, .dropOut _, _⟩ | ⟨_, .falter _ _ _, _⟩ =>
    inferInstanceAs (Decidable False)

/-- A scene in which every leader is going to renew. -/
structure Renewing (config : LeaderConfig) (scene : Scene) : Prop where
  sound : scene.Sound config
  renewing : ∀ tabId candidate, scene.candidate? tabId = some candidate → candidate.Renewing

/-- A scene in which every renewal is in time. -/
structure Timely (config : LeaderConfig) (scene : Scene) : Prop where
  sound : scene.Sound config
  timely : ∀ tabId candidate, scene.candidate? tabId = some candidate →
    candidate.Timely (scene.text config)

variable {config : LeaderConfig} {scene next : Scene}

/-- Deeds keep every leader going to renew, unless calls fail. Tabs that do nothing keep the renewal
that they have. -/
theorem Renewing.after (renewing : scene.Renewing config) {deed : Deed} (works : deed.Works)
    (done : scene.after? config deed = some next) : next.Renewing config := by
  have sound := renewing.sound
  refine ⟨sound_after sound done, ?_⟩
  intro tabId candidate present
  cases deed with
  | pass later =>
    obtain ⟨-, -, -, -, view⟩ := after_pass sound done
    exact renewing.renewing tabId candidate (view ▸ present)
  | join other =>
    obtain ⟨-, -, -, -, view⟩ := after_join sound done
    rw [view] at present
    split at present
    · cases present
      intro leads
      cases leads
    · exact renewing.renewing tabId candidate present
  | dropOut other =>
    obtain ⟨-, -, -, view⟩ := after_drop_out sound done
    rw [view] at present
    split at present
    · cases present
    · exact renewing.renewing tabId candidate present
  | act other action =>
    obtain ⟨-, -, -, before, found, -, view⟩ := after_act sound done
    rw [view] at present
    split at present
    · cases present
      exact (renewing.renewing other before found).respond _ action
    · exact renewing.renewing tabId candidate present
  | falter other action faults => exact works.elim

/-- Deeds keep every renewal in time, unless calls fail or a tab finds its lease late. The lease
that one tab writes is no concern of another one's renewal. -/
theorem Timely.after (timely : scene.Timely config) {deed : Deed} (works : deed.Works)
    (done : scene.after? config deed = some next)
    (notLate : ¬ Turn.FindsLate config ⟨scene, deed, next⟩) : next.Timely config := by
  have sound := timely.sound
  refine ⟨sound_after sound done, ?_⟩
  intro tabId candidate present
  cases deed with
  | pass later =>
    obtain ⟨-, -, -, text, view⟩ := after_pass sound done
    rw [text]
    exact timely.timely tabId candidate (view ▸ present)
  | join other =>
    obtain ⟨-, -, text, -, view⟩ := after_join sound done
    rw [view] at present
    rw [text]
    split at present
    · cases present
      exact Candidate.timely_of_unset rfl
    · exact timely.timely tabId candidate present
  | dropOut other =>
    obtain ⟨-, -, text, view⟩ := after_drop_out sound done
    rw [view] at present
    rw [text]
    split at present
    · cases present
    · exact timely.timely tabId candidate present
  | act other action =>
    obtain ⟨-, -, atNow, before, found, text, view⟩ := after_act sound done
    have tab := sound.tabs other before found
    rw [view] at present
    rw [text]
    split at present
    · cases present
      refine (timely.timely other before found).respond (tab.settings ▸ tab.valid) sound.whole
        atNow fun looks late => notLate ⟨before, found, looks, late⟩
    · rename_i apart
      have spares := (before.upholds_respond tab.timed.leading tab.honest action).spares
      have bystander := sound.tabs tabId candidate present
      intro lease held owned
      have foreign : lease.owner ≠ before.tabId := by
        rw [owned, bystander.identity, tab.identity]
        exact apart
      exact timely.timely tabId candidate present lease (spares lease held foreign) owned
  | falter other action faults => exact works.elim

/-- A turn between scenes with every renewal in time is one that renews in time. -/
theorem Timely.renews_in_time {turn : Turn} (timely : turn.after.Timely config)
    (renewing : turn.after.Renewing config) : turn.RenewsInTime config := by
  unfold Turn.RenewsInTime
  split
  · rename_i tabId action _
    intro candidate present leads lease held owned
    have tab := timely.sound.tabs tabId candidate present
    obtain ⟨deadline, armed⟩ := Option.ne_none_iff_exists'.mp
      (renewing.renewing tabId candidate present leads)
    have bound := timely.timely tabId candidate present lease held
      (owned.trans tab.identity.symm) deadline armed
    rw [tab.settings] at bound
    exact ⟨deadline, armed, bound⟩
  · trivial

/-- A turn that renews in time does not find a lease late, because that would leave the renewal
where it is found. -/
theorem Sound.finds_in_time {turn : Turn} (sound : turn.before.Sound config)
    (done : turn.before.after? config turn.deed = some turn.after)
    (inTime : turn.RenewsInTime config) : ¬ turn.FindsLate config := by
  obtain ⟨before, deed, after⟩ := turn
  cases deed with
  | act tabId action =>
    rintro ⟨candidate, found, looks, late⟩
    obtain ⟨-, -, atNow, other, present, text, view⟩ := after_act sound done
    cases found.symm.trans present
    have tab := sound.tabs tabId candidate present
    obtain ⟨leads, kept, armed⟩ := late.respond atNow looks
    obtain ⟨-, lease, held, owned, -, stale⟩ := late
    have renewed := inTime _ ((view tabId).trans (if_pos rfl)) leads lease
      (by rw [text, kept]; exact held) (owned.trans tab.identity)
    obtain ⟨deadline, set, bound⟩ := renewed
    cases armed.symm.trans set
    rw [tab.settings] at stale bound
    omega
  | _ => exact fun late => late

/-- Where no call fails, every leader is going to renew, and it does so before its lease grows stale
unless a tab in the run found a fresh lease of its own late.

Proof: deeds keep all renewals in time as long as no lease is found late. A tab that finds its lease
late leads on it from then on, with a renewal for when it is stale. -/
theorem renewals_in_time_iff (config : LeaderConfig) (entries : Entries) {start : Instant}
    (whole : start.IsWhole) (deeds : List Deed) (works : ∀ deed ∈ deeds, deed.Works) :
    (∀ turn ∈ turns config (new entries start) deeds, turn.Renews) ∧
      ((∀ turn ∈ turns config (new entries start) deeds, turn.RenewsInTime config) ↔
        ∀ turn ∈ turns config (new entries start) deeds, ¬ turn.FindsLate config) := by
  have sound := sound_of_new config entries whole
  have renewing : (new entries start).Renewing config := ⟨sound, by simp [new, candidate?]⟩
  have timely : (new entries start).Timely config := ⟨sound, by simp [new, candidate?]⟩
  have work : ∀ turn ∈ turns config (new entries start) deeds, turn.deed.Works :=
    fun turn listed => works turn.deed (deed_of_turn deeds turn listed)
  refine ⟨?_, ?_, ?_⟩
  · refine turns_keep (Renewing config) (fun turn => turn.deed.Works) ?_ renewing deeds work
    intro turn before done works
    have after := before.after works done
    refine ⟨after, ?_⟩
    unfold Turn.Renews
    split
    · exact after.renewing _
    · trivial
  · refine turns_keep (Sound config) (fun turn => turn.RenewsInTime config) ?_ sound deeds
    exact fun turn before done inTime => ⟨sound_after before done, before.finds_in_time done inTime⟩
  · intro noneLate
    refine turns_keep (fun scene => scene.Renewing config ∧ scene.Timely config)
      (fun turn => turn.deed.Works ∧ ¬ turn.FindsLate config) ?_ ⟨renewing, timely⟩ deeds
      fun turn listed => ⟨work turn listed, noneLate turn listed⟩
    rintro turn ⟨renewingBefore, timelyBefore⟩ done ⟨works, notLate⟩
    have renewingAfter := renewingBefore.after works done
    have timelyAfter := timelyBefore.after works done notLate
    exact ⟨⟨renewingAfter, timelyAfter⟩, timelyAfter.renews_in_time renewingAfter⟩

/-- A tab takes the lease, is gone without a word, and opens again under its id some time later. -/
def reopening (milliseconds : Nat) : List Deed :=
  [.join "a", .act "a" (.init .epoch), .dropOut "a", .pass (.sinceEpoch milliseconds), .join "a",
    .act "a" (.init (.sinceEpoch milliseconds))]

/-- Five seconds later, with the default settings, the tab renews its lease in time. -/
theorem renewal_in_time_after_reopening :
    Instant.epoch.IsWhole ∧ (∀ deed ∈ reopening 5000, deed.Works) ∧
      ∀ turn ∈ turns {} (new {} .epoch) (reopening 5000), turn.RenewsInTime {} := by
  have whole : Instant.epoch.IsWhole := by decide
  have works : ∀ deed ∈ reopening 5000, deed.Works := by decide
  exact ⟨whole, works,
    (renewals_in_time_iff {} {} whole (reopening 5000) works).2.mpr (by decide +kernel)⟩

/-- Nine seconds later, with the default settings, it does not: the renewal is set for three seconds
after the lease has grown stale. -/
theorem late_renewal_after_reopening :
    (∀ deed ∈ reopening 9000, deed.Works) ∧
      ¬ ∀ turn ∈ turns {} (new {} .epoch) (reopening 9000), turn.RenewsInTime {} := by
  decide +kernel

end Scene

end LiveTabs

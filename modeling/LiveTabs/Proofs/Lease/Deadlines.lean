import LiveTabs.Lease.Election
import LiveTabs.Proofs.Storage.SingleText
import LiveTabs.Proofs.Time.WholeMilliseconds

/-!
# Deadlines of a candidate

What an operation keeps whatever the storage answers, failures and changes by other tabs included:
the candidate stays that of its tab with its settings, its calls are all under the key of the
lease, no deadline lies further ahead than its interval, only a leader renews, and a candidate
without a role waits for nothing. `confined_act` says so of every operation.

The bounds hold at the time of the operation and at any later one, its horizon, so on a clock that
goes back they hold at least at the end of the calendar (`confined_act_by`).
-/

namespace LiveTabs

/-- Valid settings have a positive interval of renewal below the time to live, and a positive
interval of regular looks. -/
theorem LeaderConfig.intervals_of_valid {config : LeaderConfig} (valid : config.fault? = none) :
    0 < config.heartbeatInterval.nanoseconds ∧
      config.heartbeatInterval.nanoseconds < config.leaseTtl.nanoseconds ∧
        0 < config.safetyCheckInterval.nanoseconds := by
  unfold fault? at valid
  split at valid
  · cases valid
  split at valid
  · cases valid
  rename_i positive
  split at valid
  · cases valid
  rename_i outlives
  split at valid
  · cases valid
  rename_i regular
  have nonzero : ∀ span : Duration, span ≠ .zero → 0 < span.nanoseconds := by
    intro span different
    refine Nat.pos_of_ne_zero fun none => different ?_
    cases span
    simp_all [Duration.zero]
  refine ⟨nonzero _ positive, ?_, nonzero _ regular⟩
  exact Nat.lt_of_not_le outlives

/-- Whether an operation happens at a given time. A release needs no time. -/
def Candidate.Action.IsAt (now : Instant) : Candidate.Action → Prop
  | .init time => time = now
  | .evaluate time => time = now
  | .poll time => time = now
  | .noticeChange time _ => time = now
  | .release => True

instance (now : Instant) : (action : Candidate.Action) → Decidable (action.IsAt now)
  | .init time => inferInstanceAs (Decidable (time = now))
  | .evaluate time => inferInstanceAs (Decidable (time = now))
  | .poll time => inferInstanceAs (Decidable (time = now))
  | .noticeChange time _ => inferInstanceAs (Decidable (time = now))
  | .release => inferInstanceAs (Decidable True)

/-- Whether an operation happens at a given time or before it. -/
def Candidate.Action.IsBy (horizon : Instant) : Candidate.Action → Prop
  | .init time => time ≤ horizon
  | .evaluate time => time ≤ horizon
  | .poll time => time ≤ horizon
  | .noticeChange time _ => time ≤ horizon
  | .release => True

/-- What happens at a time happens by then. -/
theorem Candidate.Action.IsAt.by_then {now : Instant} {action : Candidate.Action}
    (atNow : action.IsAt now) : action.IsBy now := by
  cases action with
  | release => trivial
  | _ time =>
    cases atNow
    exact Int.le_refl _

namespace Candidate

/-- The same tab with the same settings, at another moment. -/
structure SameTab (before after : Candidate) : Prop where
  tabId : after.tabId = before.tabId
  config : after.config = before.config

/-- The candidate with its next regular look one interval from now. -/
def armCheck (candidate : Candidate) (now : Instant) : Candidate :=
  { candidate with checkAt := some (now.after candidate.config.safetyCheckInterval) }

/-- The deadlines that are set lie at most one interval ahead. -/
structure Bounded (now : Instant) (candidate : Candidate) : Prop where
  renewal : ∀ deadline, candidate.renewAt = some deadline →
    deadline.nanoseconds ≤ now.nanoseconds + candidate.config.heartbeatInterval.nanoseconds
  check : ∀ deadline, candidate.checkAt = some deadline →
    deadline.nanoseconds ≤ now.nanoseconds + candidate.config.safetyCheckInterval.nanoseconds

/-- The deadlines that are set lie at most one interval ahead, only a leader renews, and a candidate
without a role waits for nothing. -/
structure WellTimed (now : Instant) (candidate : Candidate) : Prop where
  bounded : candidate.Bounded now
  leading : candidate.renewAt ≠ none → candidate.role = some .leader
  idle : candidate.role = none → candidate.checkAt = none

/-- Deadlines do not move away as time passes, so a candidate that was well timed remains so until
it does something. -/
theorem WellTimed.later {now later : Instant} {candidate : Candidate}
    (timed : candidate.WellTimed now) (forward : now ≤ later) : candidate.WellTimed later := by
  rw [Instant.le_iff] at forward
  refine ⟨⟨?_, ?_⟩, timed.leading, timed.idle⟩
  · intro deadline set
    have bound := timed.bounded.renewal deadline set
    omega
  · intro deadline set
    have bound := timed.bounded.check deadline set
    omega

/-- Whoever does not lead has no renewal set. So a follower never writes the lease because of an old
deadline. -/
theorem WellTimed.unarmed {now : Instant} {candidate : Candidate} (timed : candidate.WellTimed now)
    (follows : candidate.role ≠ some .leader) : candidate.renewAt = none :=
  Decidable.byContradiction fun set => follows (timed.leading set)

/-- A candidate without a role waits for nothing, neither before it begins nor after it was
released. -/
theorem WellTimed.unset {now : Instant} {candidate : Candidate} (timed : candidate.WellTimed now)
    (idle : candidate.role = none) : candidate.nextDeadline = none := by
  rw [nextDeadline, timed.unarmed (by simp [idle]), timed.idle idle]
  rfl

/-- A candidate is set up with its id and valid settings, and nothing else: it has no role and no
deadline. -/
theorem of_create {tabId : String} {config : LeaderConfig} {candidate : Candidate}
    (created : create tabId config = .ok candidate) :
    config.fault? = none ∧ candidate = { tabId, config } := by
  unfold create at created
  split at created
  · cases created
  · split at created
    · cases created
    · exact ⟨‹_›, (Except.ok.inj created).symm⟩

/-- A candidate joins an election with its id and valid settings, and nothing else. -/
theorem of_join {election next : Election} {name tabId : String} {config : LeaderConfig}
    {hasStorage : Bool} (joined : election.join name tabId config hasStorage = .ok next) :
    config.fault? = none ∧ next = { election with
      contenders := election.contenders.enrol name ⟨{ tabId, config }, hasStorage⟩ } := by
  unfold Election.join at joined
  cases created : create tabId config with
  | error fault =>
    rw [created] at joined
    cases joined
  | ok candidate =>
    rw [created] at joined
    obtain ⟨valid, rfl⟩ := of_create created
    exact ⟨valid, (Except.ok.inj joined).symm⟩

/-- A candidate that was just set up waits for nothing. -/
theorem well_timed_of_new (now : Instant) (tabId : String) (config : LeaderConfig) :
    WellTimed now { tabId, config } := by
  refine ⟨⟨?_, ?_⟩, ?_, ?_⟩ <;> simp

/-- Setting the renewal keeps the bounds, since it is set one interval ahead of the present. -/
theorem Bounded.arm_renewal {now horizon : Instant} {candidate : Candidate}
    (within : now ≤ horizon) (bounded : candidate.Bounded horizon) :
    (candidate.armRenewal now).Bounded horizon := by
  refine ⟨?_, bounded.check⟩
  intro deadline set
  cases Option.some.inj set
  have bound := Instant.after_le now candidate.config.heartbeatInterval
  rw [Instant.le_iff] at within
  show _ ≤ horizon.nanoseconds + candidate.config.heartbeatInterval.nanoseconds
  omega

/-- Giving up the renewal keeps the bounds. -/
theorem Bounded.disarm_renewal {horizon : Instant} {candidate : Candidate}
    (bounded : candidate.Bounded horizon) : candidate.disarmRenewal.Bounded horizon := by
  refine ⟨?_, bounded.check⟩
  intro deadline set
  simp [disarmRenewal] at set

/-- Setting the next regular look keeps the bounds, since it is set one interval ahead of the
present. -/
theorem Bounded.arm_check {now horizon : Instant} {candidate : Candidate}
    (within : now ≤ horizon) (bounded : candidate.Bounded horizon) :
    (candidate.armCheck now).Bounded horizon := by
  refine ⟨bounded.renewal, ?_⟩
  intro deadline set
  cases Option.some.inj set
  have bound := Instant.after_le now candidate.config.safetyCheckInterval
  rw [Instant.le_iff] at within
  show _ ≤ horizon.nanoseconds + candidate.config.safetyCheckInterval.nanoseconds
  omega

/-- What a decision may make of a candidate: its tab and bounds stay, and a follower does not
renew. -/
def Decides (horizon : Instant) (before : Candidate) (result : Candidate × Role) : Prop :=
  before.SameTab result.1 ∧ (before.Bounded horizon → result.1.Bounded horizon) ∧
    (result.2 = .follower → result.1.renewAt = none)

/-- What a look at the lease may make of a candidate. -/
def LooksInto (horizon : Instant) (before after : Candidate) : Prop :=
  before.SameTab after ∧ (before.Bounded horizon → after.WellTimed horizon)

/-- What any operation may make of a candidate. -/
def Succeeds (horizon : Instant) (before after : Candidate) : Prop :=
  before.SameTab after ∧ (before.WellTimed horizon → after.WellTimed horizon)

/-- Giving up the renewal goes with either decision: whoever leads without one is a leader whose
calls failed. -/
theorem decides_disarm_renewal (horizon : Instant) (candidate : Candidate) (role : Role) :
    Decides horizon candidate (candidate.disarmRenewal, role) :=
  ⟨⟨rfl, rfl⟩, Bounded.disarm_renewal, fun _ => rfl⟩

/-- Reading the lease makes one call under its key. -/
theorem confined_read (key : String) {property : Except StorageError (Option Lease) → Prop}
    (always : ∀ answer, property answer) : Access.Confined key property (Lease.read key) := by
  refine ⟨rfl, ?_⟩
  rintro (error | text) <;> exact always _

/-- A release leaves nothing to wait for, whether or not the lease can be removed. -/
theorem confined_release (candidate : Candidate) (horizon : Instant) :
    Access.Confined candidate.config.leaseKey (Succeeds horizon candidate) candidate.release := by
  have released : Succeeds horizon candidate
      { candidate with role := none, renewAt := none, checkAt := none } := by
    refine ⟨⟨rfl, rfl⟩, fun timed => ⟨⟨?_, ?_⟩, ?_, ?_⟩⟩ <;> simp
  unfold release
  split
  · refine Access.confined_if_supported (Access.confined_bind _ _ ?_) released
    refine Access.confined_bind _ _ (confined_read _ ?_)
    rintro (error | _ | lease)
    · exact released
    · exact released
    · dsimp only
      split
      · exact ⟨rfl, fun answer => released⟩
      · exact released
  · exact released

section Horizon

variable {now horizon : Instant} (within : now ≤ horizon)
include within

/-- Setting the renewal is a decision to lead, and only that is: followers have none. -/
theorem decides_arm_renewal (candidate : Candidate) :
    Decides horizon candidate (candidate.armRenewal now, .leader) := by
  refine ⟨⟨rfl, rfl⟩, Bounded.arm_renewal within, ?_⟩
  intro follows
  cases follows

/-- Taking the lease is a decision to lead, whether or not it can be written. Where it cannot, no
renewal is set. -/
theorem confined_acquire (candidate : Candidate) :
    Access.Confined candidate.config.leaseKey (Decides horizon candidate)
      (candidate.acquire now) := by
  refine ⟨rfl, ?_⟩
  rintro (error | written)
  · exact decides_disarm_renewal horizon candidate .leader
  · exact decides_arm_renewal within candidate

/-- A decision is one whatever is read, and whether or not anything can be read. -/
theorem confined_decide (candidate : Candidate) :
    Access.Confined candidate.config.leaseKey (Decides horizon candidate)
      (candidate.decide now) := by
  refine Access.confined_if_supported ?_ (decides_disarm_renewal horizon candidate .leader)
  refine Access.confined_bind _ _ (confined_read _ ?_)
  rintro (error | _ | lease)
  · exact decides_disarm_renewal horizon candidate .leader
  · exact confined_acquire within candidate
  · dsimp only
    split
    · exact confined_acquire within candidate
    split
    · split
      · refine ⟨⟨rfl, rfl⟩, id, ?_⟩
        intro follows
        cases follows
      · exact decides_arm_renewal within candidate
    · exact decides_disarm_renewal horizon candidate .follower

/-- A look at the lease keeps the bounds and leaves the candidate well timed, because it sets the
role that goes with the renewal. -/
theorem confined_evaluate (candidate : Candidate) :
    Access.Confined candidate.config.leaseKey
      (fun result => LooksInto horizon candidate result.1) (candidate.evaluate now) := by
  refine Access.confined_bind _ _ (Access.confined_mono _ (confined_decide within candidate) ?_)
  rintro ⟨decided, role⟩ ⟨same, bounds, follows⟩
  refine ⟨⟨same.tabId, same.config⟩, fun bounded => ⟨?_, ?_, ?_⟩⟩
  · exact ⟨(bounds bounded).renewal, (bounds bounded).check⟩
  · intro renews
    cases role with
    | leader => rfl
    | follower => exact absurd (follows rfl) renews
  · intro idle
    cases idle

/-- A renewal keeps a leader well timed: it sets the next renewal, or gives way to a look at the
lease. -/
theorem confined_renew (candidate : Candidate) :
    Access.Confined candidate.config.leaseKey
      (fun renewed => candidate.SameTab renewed ∧
        (candidate.isLeader = true → candidate.WellTimed horizon → renewed.WellTimed horizon))
      (candidate.renew now) := by
  have renewed : candidate.isLeader = true → candidate.WellTimed horizon →
      (candidate.armRenewal now).WellTimed horizon := by
    refine fun leads timed => ⟨timed.bounded.arm_renewal within, ?_, timed.idle⟩
    intro _
    simpa [isLeader, armRenewal] using leads
  refine Access.confined_bind _ _ (confined_read _ ?_)
  rintro (error | lease)
  · exact ⟨⟨rfl, rfl⟩, renewed⟩
  · dsimp only
    split
    · refine Access.confined_bind _ _
        (Access.confined_mono _ (confined_evaluate within candidate.disarmRenewal) ?_)
      rintro ⟨evaluated, reported⟩ ⟨same, timed⟩
      exact ⟨⟨same.tabId, same.config⟩, fun _ before => timed before.bounded.disarm_renewal⟩
    · exact ⟨rfl, fun answer => ⟨⟨rfl, rfl⟩, renewed⟩⟩

/-- What poll does after the renewal keeps a candidate well timed, whichever role it compares
with. -/
theorem confined_poll_check (candidate : Candidate) (before : Option Role) :
    Access.Confined candidate.config.leaseKey
      (fun result => Succeeds horizon candidate result.1)
      (if Instant.isDue candidate.checkAt now then do
          let checked ← candidate.check now
          pure (checked, changedRole before checked.role)
        else pure (candidate, changedRole before candidate.role)) := by
  split
  · refine Access.confined_bind _ _ (Access.confined_bind _ _
      (Access.confined_mono _ (confined_evaluate within (candidate.armCheck now)) ?_))
    rintro ⟨checked, reported⟩ ⟨same, timed⟩
    exact ⟨⟨same.tabId, same.config⟩, fun before => timed (before.bounded.arm_check within)⟩
  · exact ⟨⟨rfl, rfl⟩, id⟩

/-- Doing what is due keeps a candidate well timed, because only a leader has a renewal to do. -/
theorem confined_poll (candidate : Candidate) :
    Access.Confined candidate.config.leaseKey
      (fun result => Succeeds horizon candidate result.1) (candidate.poll now) := by
  unfold poll
  split
  · rename_i due
    obtain ⟨deadline, set, -⟩ := (Instant.is_due_iff _ _).mp due
    have leads : candidate.WellTimed horizon → candidate.isLeader = true := fun timed => by
      simpa [isLeader] using timed.leading (by simp [set])
    refine Access.confined_bind _ _ (Access.confined_mono _ (confined_renew within candidate) ?_)
    rintro renewed ⟨same, onward⟩
    have checked := confined_poll_check within renewed candidate.role
    rw [same.config] at checked
    refine Access.confined_mono _ checked ?_
    rintro result ⟨still, further⟩
    exact ⟨⟨still.tabId.trans same.tabId, still.config.trans same.config⟩,
      fun timed => further (onward (leads timed) timed)⟩
  · exact confined_poll_check within candidate candidate.role

end Horizon

/-- Every operation makes its calls under the key of the lease and keeps a candidate well timed for
any time that is not before the operation, whatever the storage answers. -/
theorem confined_act_by (candidate : Candidate) {horizon : Instant} {action : Candidate.Action}
    (within : action.IsBy horizon) :
    Access.Confined candidate.config.leaseKey
      (fun result => Succeeds horizon candidate result.1) (candidate.act action) := by
  have looks : ∀ now, now ≤ horizon → Access.Confined candidate.config.leaseKey
      (fun result => Succeeds horizon candidate result.1) (candidate.evaluate now) := by
    intro now within
    refine Access.confined_mono _ (confined_evaluate within candidate) ?_
    exact fun result looked => ⟨looked.1, fun before => looked.2 before.bounded⟩
  cases action with
  | init now =>
    refine Access.confined_mono _ (confined_evaluate within (candidate.armCheck now)) ?_
    exact fun result looked => ⟨⟨looked.1.tabId, looked.1.config⟩,
      fun before => looked.2 (before.bounded.arm_check within)⟩
  | evaluate now => exact looks now within
  | poll now => exact confined_poll within candidate
  | noticeChange now key =>
    simp only [act, noticeChange]
    split
    · exact ⟨⟨rfl, rfl⟩, id⟩
    · exact looks now within
  | release => exact Access.confined_bind _ _ (confined_release candidate horizon)

/-- So it is at the time of the operation. -/
theorem confined_act (candidate : Candidate) {now : Instant} {action : Candidate.Action}
    (atNow : action.IsAt now) :
    Access.Confined candidate.config.leaseKey (fun result => Succeeds now candidate result.1)
      (candidate.act action) :=
  candidate.confined_act_by atNow.by_then

end Candidate

end LiveTabs

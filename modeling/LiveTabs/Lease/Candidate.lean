import LiveTabs.Config
import LiveTabs.Lease

/-!
# Candidates

A candidate decides for one tab whether it leads. It leads while it holds a fresh lease and follows
while another tab does; a lease that is stale or missing is taken. There is no lock and no atomic
change of the lease: each operation reads first and writes later, and the next look at the lease
corrects what a race left behind. Without storage a candidate leads, so that a tab is never left
without updates.

A leader renews its lease at one deadline; every candidate looks at the lease at another.
-/

namespace LiveTabs

/-- The part of a tab that takes part in the election. -/
structure Candidate where
  tabId : String
  config : LeaderConfig
  /-- The present role; none before the first evaluation and after a release. -/
  role : Option Role := none
  /-- When the lease is to be renewed. -/
  renewAt : Option Instant := none
  /-- When the lease is to be looked at. -/
  checkAt : Option Instant := none
deriving DecidableEq

namespace Candidate

/-- Sets up a candidate. The tab has to have an id that is not blank, and the settings have to be
valid. -/
def create (tabId : String) (config : LeaderConfig) : Except SetupError Candidate :=
  if Text.isBlank tabId then .error (.missingIdentity .blankTab)
  else match config.fault? with
    | some error => .error (.invalidConfig error)
    | none => .ok { tabId, config }

/-- Whether the tab leads. -/
def isLeader (candidate : Candidate) : Bool := candidate.role == some .leader

/-- Whether the lease is going to be renewed. -/
def isRenewing (candidate : Candidate) : Bool := candidate.renewAt.isSome

/-- The next instant at which the candidate has something to do. -/
def nextDeadline (candidate : Candidate) : Option Instant :=
  Instant.earliest candidate.renewAt candidate.checkAt

/-- The lease that the candidate writes at a given instant. -/
def claim (candidate : Candidate) (now : Instant) : Lease := ⟨candidate.tabId, now⟩

/-- The candidate with a renewal one interval from now. -/
def armRenewal (candidate : Candidate) (now : Instant) : Candidate :=
  { candidate with renewAt := some (now.after candidate.config.heartbeatInterval) }

/-- The candidate without a renewal. -/
def disarmRenewal (candidate : Candidate) : Candidate := { candidate with renewAt := none }

/-- Takes the lease. The tab leads even if the lease cannot be written, but renews it only if it
was. -/
def acquire (candidate : Candidate) (now : Instant) : Access (Candidate × Role) := do
  match ← Lease.write candidate.config.leaseKey (candidate.claim now) with
  | .ok () => pure (candidate.armRenewal now, .leader)
  | .error _ => pure (candidate.disarmRenewal, .leader)

/-- Decides on a role by looking at the lease. A fresh lease of its own keeps a renewal that is set
and sets one otherwise. -/
def decide (candidate : Candidate) (now : Instant) : Access (Candidate × Role) := do
  if ← Access.isSupported then
    match ← Lease.read candidate.config.leaseKey with
    | .error _ => pure (candidate.disarmRenewal, .leader)
    | .ok none => candidate.acquire now
    | .ok (some lease) =>
      if lease.isStale now candidate.config.leaseTtl then candidate.acquire now
      else if lease.isOwnedBy candidate.tabId then
        if candidate.renewAt.isSome then pure (candidate, .leader)
        else pure (candidate.armRenewal now, .leader)
      else pure (candidate.disarmRenewal, .follower)
  else pure (candidate.disarmRenewal, .leader)

/-- The role if it differs from the one before. -/
def changedRole (before after : Option Role) : Option Role := if after = before then none else after

/-- Decides on a role and takes it. The role is reported if it is a new one. -/
def evaluate (candidate : Candidate) (now : Instant) : Access (Candidate × Option Role) := do
  let (decided, role) ← candidate.decide now
  pure ({ decided with role := some role }, changedRole decided.role (some role))

/-- The first evaluation; from now on the lease is looked at regularly. -/
def init (candidate : Candidate) (now : Instant) : Access (Candidate × Option Role) :=
  let checkAt := some (now.after candidate.config.safetyCheckInterval)
  evaluate { candidate with checkAt } now

/-- Another tab changed the text under a key. Other keys than that of the lease are of no interest,
and so is the lease to a candidate without a role. -/
def noticeChange (candidate : Candidate) (now : Instant) (key : String) :
    Access (Candidate × Option Role) :=
  if key ≠ candidate.config.leaseKey ∨ candidate.role = none then pure (candidate, none)
  else candidate.evaluate now

/-- Renews the lease, unless another tab's has appeared in its place: then the renewal ends and the
role is decided anew. A renewal that fails is tried again at the next interval. -/
def renew (candidate : Candidate) (now : Instant) : Access Candidate := do
  let key := candidate.config.leaseKey
  let foreign : Lease → Bool := fun lease => !lease.isOwnedBy candidate.tabId
  match ← Lease.read key with
  | .error _ => pure (candidate.armRenewal now)
  | .ok lease =>
    if lease.any foreign then
      let (evaluated, _) ← candidate.disarmRenewal.evaluate now
      pure evaluated
    else
      let _ ← Lease.write key (candidate.claim now)
      pure (candidate.armRenewal now)

/-- Looks at the lease at the regular interval. -/
def check (candidate : Candidate) (now : Instant) : Access Candidate := do
  let checkAt := some (now.after candidate.config.safetyCheckInterval)
  let (evaluated, _) ← evaluate { candidate with checkAt } now
  pure evaluated

/-- Does what is due: the renewal first, then the regular look. The role is reported if it differs
from the one before both. -/
def poll (candidate : Candidate) (now : Instant) : Access (Candidate × Option Role) := do
  let renewed ← if Instant.isDue candidate.renewAt now then candidate.renew now else pure candidate
  let checked ← if Instant.isDue renewed.checkAt now then renewed.check now else pure renewed
  pure (checked, changedRole candidate.role checked.role)

/-- Removes the lease if it is the tab's own. Failures are borne: the lease then grows stale. -/
def clearOwnLease (candidate : Candidate) : Access Unit := do
  match ← Lease.read candidate.config.leaseKey with
  | .ok (some lease) =>
    if lease.isOwnedBy candidate.tabId then
      let _ ← Lease.clear candidate.config.leaseKey
    else pure ()
  | _ => pure ()

/-- Leaves the election: no deadline and no role is left, and neither is a lease that the tab holds
as a leader, so that a follower need not wait for it to grow stale. -/
def release (candidate : Candidate) : Access Candidate := do
  if candidate.isLeader then
    if ← Access.isSupported then candidate.clearOwnLease
  pure { candidate with role := none, renewAt := none, checkAt := none }

end Candidate

end LiveTabs

import LiveTabs.Proofs.Lease.Deadlines
import LiveTabs.Proofs.Lease.StoredLease

/-!
# Responses of a candidate

What an operation of a candidate makes of the candidate and of the stored text when its calls are
answered at a stretch by a working store. An operation that looks at the lease finds it vacant, its
own or foreign, and that alone decides the role, the renewal and the text. `outcome_act` shows that
the program of every operation gives exactly this response, so later results speak of responses and
never unfold a program.
-/

namespace LiveTabs

/-- What a candidate finds in the place of the lease: none or a stale one, a fresh one of its own,
or a fresh one of another tab. -/
inductive Standing where
  | vacant
  | own
  | foreign

namespace Candidate

/-- What a candidate finds in a text at a given time. -/
def standing (candidate : Candidate) (now : Instant) (text : Option String) : Standing :=
  match Lease.held text with
  | none => .vacant
  | some lease =>
    if lease.isStale now candidate.config.leaseTtl then .vacant
    else if lease.isOwnedBy candidate.tabId then .own else .foreign

/-- The candidate and the text after a look at the lease. A renewal that is set is kept on a lease
of its own. -/
def looked (candidate : Candidate) (now : Instant) (text : Option String) :
    Candidate × Option String :=
  match candidate.standing now text with
  | .vacant =>
    ({ candidate.armRenewal now with role := some .leader }, some (candidate.claim now).render)
  | .own =>
    let renewal := candidate.renewAt.getD (now.after candidate.config.heartbeatInterval)
    ({ candidate with role := some .leader, renewAt := some renewal }, text)
  | .foreign => ({ candidate.disarmRenewal with role := some .follower }, text)

/-- Whether a text is a lease of another tab, fresh or stale. -/
def isDisplaced (candidate : Candidate) (text : Option String) : Bool :=
  (Lease.held text).any fun lease => !lease.isOwnedBy candidate.tabId

/-- The candidate and the text after a renewal. -/
def renewed (candidate : Candidate) (now : Instant) (text : Option String) :
    Candidate × Option String :=
  if candidate.isDisplaced text then candidate.disarmRenewal.looked now text
  else (candidate.armRenewal now, some (candidate.claim now).render)

/-- The candidate and the text after the renewal, if it is due. -/
def polledRenewal (candidate : Candidate) (now : Instant) (text : Option String) :
    Candidate × Option String :=
  if Instant.isDue candidate.renewAt now then candidate.renewed now text else (candidate, text)

/-- The candidate and the text after the regular look, if it is due. -/
def polledCheck (candidate : Candidate) (now : Instant) (text : Option String) :
    Candidate × Option String :=
  if Instant.isDue candidate.checkAt now then (candidate.armCheck now).looked now text
  else (candidate, text)

/-- The candidate and the text after all that is due, the renewal first. -/
def polled (candidate : Candidate) (now : Instant) (text : Option String) :
    Candidate × Option String :=
  let renewed := candidate.polledRenewal now text
  renewed.1.polledCheck now renewed.2

/-- The candidate and the text after a release. Only a leader removes the lease, and only its
own. -/
def released (candidate : Candidate) (text : Option String) : Candidate × Option String :=
  let owned := (Lease.held text).any fun lease => lease.isOwnedBy candidate.tabId
  ({ candidate with role := none, renewAt := none, checkAt := none },
    if candidate.isLeader && owned then none else text)

/-- The candidate and the text after an operation. -/
def respond (candidate : Candidate) (text : Option String) :
    Candidate.Action → Candidate × Option String
  | .init now => (candidate.armCheck now).looked now text
  | .evaluate now => candidate.looked now text
  | .poll now => candidate.polled now text
  | .noticeChange now key =>
    if key.getD candidate.config.leaseKey ≠ candidate.config.leaseKey ∨ candidate.role = none then
      (candidate, text)
    else candidate.looked now text
  | .release => candidate.released text

/-- A look at the lease takes it where it is missing or stale, keeps leading on a fresh one of the
candidate's own, and follows on a fresh one of another tab. -/
theorem looked_cases (candidate : Candidate) (now : Instant) (text : Option String) :
    ((∀ lease, Lease.held text = some lease → lease.acquiredAt.nanoseconds +
          candidate.config.leaseTtl.nanoseconds < now.nanoseconds) ∧
        candidate.looked now text =
          ({ candidate.armRenewal now with role := some .leader },
            some (candidate.claim now).render)) ∨
      ∃ lease, Lease.held text = some lease ∧ now.nanoseconds ≤
          lease.acquiredAt.nanoseconds + candidate.config.leaseTtl.nanoseconds ∧
        ((lease.owner = candidate.tabId ∧ candidate.looked now text =
            ({ candidate with
                role := some .leader
                renewAt := some (candidate.renewAt.getD
                  (now.after candidate.config.heartbeatInterval)) }, text)) ∨
          (lease.owner ≠ candidate.tabId ∧ candidate.looked now text =
            ({ candidate.disarmRenewal with role := some .follower }, text))) := by
  unfold looked standing
  cases held : Lease.held text with
  | none => exact .inl ⟨by simp, rfl⟩
  | some lease =>
    have staleness := lease.is_stale_iff now candidate.config.leaseTtl
    dsimp only
    by_cases stale : lease.isStale now candidate.config.leaseTtl = true
    · rw [if_pos stale]
      exact .inl ⟨by simpa using staleness.mp stale, rfl⟩
    · rw [if_neg stale]
      rw [staleness] at stale
      refine .inr ⟨lease, rfl, by omega, ?_⟩
      by_cases owned : lease.owner = candidate.tabId
      · simp [Lease.isOwnedBy, owned]
      · simp [Lease.isOwnedBy, owned]

/-- A look at the lease leaves the tab the same. -/
theorem same_tab_looked (candidate : Candidate) (now : Instant) (text : Option String) :
    candidate.SameTab (candidate.looked now text).1 := by
  obtain ⟨-, took⟩ | ⟨_, _, _, ⟨-, kept⟩ | ⟨-, follows⟩⟩ := candidate.looked_cases now text
  · rw [took]
    exact ⟨rfl, rfl⟩
  · rw [kept]
    exact ⟨rfl, rfl⟩
  · rw [follows]
    exact ⟨rfl, rfl⟩

/-- The renewal of poll leaves the tab the same. -/
theorem same_tab_polled_renewal (candidate : Candidate) (now : Instant) (text : Option String) :
    candidate.SameTab (candidate.polledRenewal now text).1 := by
  unfold polledRenewal renewed
  split
  · split
    · have same := candidate.disarmRenewal.same_tab_looked now text
      exact ⟨same.tabId, same.config⟩
    · exact ⟨rfl, rfl⟩
  · exact ⟨rfl, rfl⟩

/-- The result and the text that a program leaves on a single text, without what it reports. -/
def outcome (text : Option String) (program : Access (Candidate × Option Role)) :
    Candidate × Option String :=
  let ended := Access.run .singleText text program
  (ended.1.1, ended.2)

/-- A single text is a storage, so a look at it goes on to read. -/
theorem run_supported (text : Option String) :
    Access.run .singleText text Access.isSupported = (true, text) := rfl

/-- Reading the lease gives the one in the text, or none if there is no text or it is none of a
lease. -/
theorem run_read (text : Option String) (key : String) :
    Access.run .singleText text (Lease.read key) = (.ok (Lease.held text), text) := rfl

/-- The decision follows from what is found in the text: a vacant lease is taken, a foreign one is
followed, and the candidate's own is kept. -/
theorem run_decide (candidate : Candidate) (now : Instant) (text : Option String) :
    Access.run .singleText text (candidate.decide now) =
      match candidate.standing now text with
      | .vacant => ((candidate.armRenewal now, .leader), some (candidate.claim now).render)
      | .own =>
        let renewal := candidate.renewAt.getD (now.after candidate.config.heartbeatInterval)
        (({ candidate with renewAt := some renewal }, .leader), text)
      | .foreign => ((candidate.disarmRenewal, .follower), text) := by
  rw [Candidate.decide, Access.run_bind, run_supported]
  simp only [if_true, Access.run_bind, run_read]
  unfold standing
  cases Lease.held text with
  | none => rfl
  | some lease =>
    dsimp only
    split
    · rfl
    split
    · obtain ⟨tabId, config, role, renewAt, checkAt⟩ := candidate
      cases renewAt <;> rfl
    · rfl

/-- A look at the lease gives the response to it. From here on looks are functions of the text and
need not be run. -/
theorem outcome_evaluate (candidate : Candidate) (now : Instant) (text : Option String) :
    outcome text (candidate.evaluate now) = candidate.looked now text := by
  simp only [outcome, evaluate, Access.run_bind, Access.run_pure, run_decide, looked]
  cases candidate.standing now text <;> rfl

/-- A renewal gives the response to it: another lease, or what a look makes of a foreign one. -/
theorem run_renew (candidate : Candidate) (now : Instant) (text : Option String) :
    Access.run .singleText text (candidate.renew now) = candidate.renewed now text := by
  unfold renew renewed
  rw [Access.run_bind, run_read]
  by_cases displaced : candidate.isDisplaced text = true
  · rw [if_pos displaced]
    unfold isDisplaced at displaced
    simp only [displaced, if_true]
    rw [Access.run_bind]
    exact outcome_evaluate candidate.disarmRenewal now text
  · rw [if_neg displaced]
    unfold isDisplaced at displaced
    simp only [displaced]
    rfl

/-- The regular look gives the response to it. -/
theorem run_check (candidate : Candidate) (now : Instant) (text : Option String) :
    Access.run .singleText text (candidate.check now) =
      (candidate.armCheck now).looked now text := by
  unfold check
  rw [Access.run_bind]
  exact outcome_evaluate (candidate.armCheck now) now text

/-- The outcome of a sequence is that of its second part after the first, with the text that the
first part left. -/
theorem outcome_bind {α : Type} (text : Option String) (first : Access α)
    (next : α → Access (Candidate × Option Role)) :
    outcome text (first >>= next) =
      outcome (Access.run .singleText text first).2
        (next (Access.run .singleText text first).1) := by
  simp only [outcome, Access.run_bind]

/-- What poll does after the renewal, whichever role it compares with, gives the response to the
regular look. -/
theorem outcome_poll_check (candidate : Candidate) (before : Option Role) (now : Instant)
    (text : Option String) :
    outcome text
        (if Instant.isDue candidate.checkAt now then do
          let checked ← candidate.check now
          pure (checked, changedRole before checked.role)
        else pure (candidate, changedRole before candidate.role)) =
      candidate.polledCheck now text := by
  unfold polledCheck
  split
  · rw [outcome_bind, run_check]
    rfl
  · rfl

/-- Doing what is due gives the response to it: a renewal, a regular look, both in this order, or
nothing. -/
theorem outcome_poll (candidate : Candidate) (now : Instant) (text : Option String) :
    outcome text (candidate.poll now) = candidate.polled now text := by
  unfold poll polled polledRenewal
  by_cases due : Instant.isDue candidate.renewAt now = true
  · simp only [due, if_true]
    rw [outcome_bind, run_renew]
    exact outcome_poll_check _ candidate.role now _
  · simp only [due]
    exact outcome_poll_check candidate candidate.role now text

/-- A release gives the response to it. -/
theorem run_release (candidate : Candidate) (text : Option String) :
    Access.run .singleText text candidate.release = candidate.released text := by
  unfold release released
  cases leads : candidate.isLeader with
  | false => rfl
  | true =>
    simp only [if_true, Access.run_bind, Access.run_pure, run_supported, clearOwnLease, run_read,
      Bool.true_and]
    cases Lease.held text with
    | none => rfl
    | some lease =>
      dsimp only [Option.any_some]
      split <;> rfl

/-- Every operation gives the response to it, so on a store that works a tab is a function of the
stored text. -/
theorem outcome_act (candidate : Candidate) (text : Option String) (action : Candidate.Action) :
    outcome text (candidate.act action) = candidate.respond text action := by
  cases action with
  | init now => exact outcome_evaluate (candidate.armCheck now) now text
  | evaluate now => exact outcome_evaluate candidate now text
  | poll now => exact outcome_poll candidate now text
  | noticeChange now key =>
    simp only [act, noticeChange, respond]
    split
    · rfl
    · exact outcome_evaluate candidate now text
  | release =>
    simp only [outcome, act, Access.run_bind, Access.run_pure, run_release, respond]

/-- On a storage that serves as a single text, an operation ends as the candidate responds to that
text. -/
theorem run_act {σ : Type} {storage : Storage σ} {key : String} {working : σ → Prop}
    {text : σ → Option String} (serves : storage.Serves key working text) (candidate : Candidate)
    (action : Candidate.Action) {limits : Candidate × Option Role → Prop}
    (confined : Access.Confined key limits (candidate.act action)) (state : σ)
    (works : working state) :
    (Access.run storage state (candidate.act action)).1.1 =
        (candidate.respond (text state) action).1 ∧
      text (Access.run storage state (candidate.act action)).2 =
        (candidate.respond (text state) action).2 ∧
      working (Access.run storage state (candidate.act action)).2 := by
  obtain ⟨result, left, worksStill⟩ := Access.run_serves serves _ confined state works
  refine ⟨?_, ?_, worksStill⟩
  · rw [result, ← candidate.outcome_act]
    rfl
  · rw [left, ← candidate.outcome_act]
    rfl

end Candidate

end LiveTabs

import LiveTabs.Proofs.Lease.Deadlines
import LiveTabs.Proofs.Storage.Answers

/-!
# Polls of a candidate

A poll that comes before the deadlines of a candidate does nothing at all. A poll that comes at or
after one of them leaves no deadline that has passed, whatever the storage answers: what is waited
for again lies one interval ahead, and an interval is not zero. The renewal comes first, so a look
at the lease, which keeps a renewal that is set, never keeps one that is due.
-/

namespace LiveTabs

namespace Candidate

variable {candidate : Candidate} {now : Instant}

/-- Before its deadlines a candidate calls nobody and stays as it is, so it may be polled as often
as one likes. -/
theorem poll_of_undue (undue : Instant.isDue candidate.nextDeadline now = false) :
    candidate.poll now = pure (candidate, none) := by
  rw [nextDeadline, Instant.is_due_earliest, Bool.or_eq_false_iff] at undue
  obtain ⟨renewal, check⟩ := undue
  have same : changedRole candidate.role candidate.role = none := if_pos rfl
  unfold poll
  rw [renewal]
  show (if Instant.isDue candidate.checkAt now then _ else _) = _
  rw [check, if_neg Bool.false_ne_true]
  exact congrArg
    (fun reported => (pure (candidate, reported) : Access (Candidate × Option Role))) same

/-- What is left of a candidate after an operation that may renew: its settings and its regular
look, and no renewal that is due. -/
structure LeavesUndue (now : Instant) (before after : Candidate) : Prop where
  config : after.config = before.config
  checkAt : after.checkAt = before.checkAt
  renewal : Instant.isDue after.renewAt now = false

section Valid

variable (valid : candidate.config.fault? = none) (inside : now < Instant.last)
include valid inside

/-- A renewal that is set anew lies ahead, because the interval is positive and the calendar does
not end yet. -/
theorem arm_leaves_undue : candidate.LeavesUndue now (candidate.armRenewal now) :=
  ⟨rfl, rfl, Instant.undue_after inside (LeaderConfig.intervals_of_valid valid).1⟩

/-- Taking the lease leaves no renewal that is due: it sets one ahead, or clears it if the write
fails. -/
theorem acquire_leaves_undue {result : Candidate × Role}
    (gives : Access.MayGive result (candidate.acquire now)) :
    candidate.LeavesUndue now result.1 := by
  obtain ⟨answer, -, gives⟩ := Access.may_give_bind _ gives
  cases answer with
  | ok written =>
    cases Access.eq_of_may_give_pure gives
    exact arm_leaves_undue valid inside
  | error fault =>
    cases Access.eq_of_may_give_pure gives
    exact ⟨rfl, rfl, rfl⟩

/-- Neither does a decision, if there was none before. -/
theorem decide_leaves_undue {result : Candidate × Role}
    (undue : Instant.isDue candidate.renewAt now = false)
    (gives : Access.MayGive result (candidate.decide now)) :
    candidate.LeavesUndue now result.1 := by
  obtain ⟨supported, -, gives⟩ := Access.may_give_bind _ gives
  cases supported with
  | false =>
    cases Access.eq_of_may_give_pure gives
    exact ⟨rfl, rfl, rfl⟩
  | true =>
    obtain ⟨answer, -, gives⟩ := Access.may_give_bind _ gives
    obtain fault | _ | lease := answer
    · cases Access.eq_of_may_give_pure gives
      exact ⟨rfl, rfl, rfl⟩
    · exact acquire_leaves_undue valid inside gives
    · dsimp only at gives
      split at gives
      · exact acquire_leaves_undue valid inside gives
      split at gives
      · split at gives
        · cases Access.eq_of_may_give_pure gives
          exact ⟨rfl, rfl, undue⟩
        · cases Access.eq_of_may_give_pure gives
          exact arm_leaves_undue valid inside
      · cases Access.eq_of_may_give_pure gives
        exact ⟨rfl, rfl, rfl⟩

/-- Neither does a look at the lease. -/
theorem evaluate_leaves_undue {result : Candidate × Option Role}
    (undue : Instant.isDue candidate.renewAt now = false)
    (gives : Access.MayGive result (candidate.evaluate now)) :
    candidate.LeavesUndue now result.1 := by
  obtain ⟨⟨decided, role⟩, decision, gives⟩ := Access.may_give_bind _ gives
  cases Access.eq_of_may_give_pure gives
  obtain ⟨config, checkAt, renewal⟩ := decide_leaves_undue valid inside undue decision
  exact ⟨config, checkAt, renewal⟩

/-- A renewal leaves none that is due, even if it fails or gives way to a look. -/
theorem renew_leaves_undue {renewed : Candidate}
    (gives : Access.MayGive renewed (candidate.renew now)) :
    candidate.LeavesUndue now renewed := by
  obtain ⟨answer, -, gives⟩ := Access.may_give_bind _ gives
  cases answer with
  | error fault =>
    cases Access.eq_of_may_give_pure gives
    exact arm_leaves_undue valid inside
  | ok lease =>
    dsimp only at gives
    split at gives
    · obtain ⟨evaluated, evaluation, gives⟩ := Access.may_give_bind _ gives
      cases Access.eq_of_may_give_pure gives
      have disarmed : candidate.disarmRenewal.config.fault? = none := valid
      obtain ⟨config, checkAt, renewal⟩ := evaluate_leaves_undue disarmed inside rfl evaluation
      exact ⟨config, checkAt, renewal⟩
    · obtain ⟨-, -, gives⟩ := Access.may_give_bind _ gives
      cases Access.eq_of_may_give_pure gives
      exact arm_leaves_undue valid inside

/-- The regular look, where it is due, leaves nothing that is: it sets the next one first, and a
look leaves no renewal that is due. -/
theorem poll_check_leaves_undue {before : Option Role} {result : Candidate × Option Role}
    (undue : Instant.isDue candidate.renewAt now = false)
    (gives : Access.MayGive result
      (if Instant.isDue candidate.checkAt now then do
          let checked ← candidate.check now
          pure (checked, changedRole before checked.role)
        else pure (candidate, changedRole before candidate.role))) :
    Instant.isDue result.1.nextDeadline now = false := by
  rw [nextDeadline, Instant.is_due_earliest, Bool.or_eq_false_iff]
  split at gives
  · obtain ⟨checked, look, gives⟩ := Access.may_give_bind _ gives
    obtain ⟨evaluated, evaluation, looked⟩ := Access.may_give_bind _ look
    cases Access.eq_of_may_give_pure gives
    cases Access.eq_of_may_give_pure looked
    have armed : (candidate.armCheck now).config.fault? = none := valid
    obtain ⟨-, checkAt, renewal⟩ := evaluate_leaves_undue armed inside undue evaluation
    refine ⟨renewal, ?_⟩
    rw [checkAt]
    exact Instant.undue_after inside (LeaderConfig.intervals_of_valid valid).2.2
  · rename_i later
    cases Access.eq_of_may_give_pure gives
    exact ⟨undue, by simpa using later⟩

/-- After a poll no deadline of a candidate has passed.

Proof: the renewal comes first and leaves none that is due, and the look that may follow keeps it
so. -/
theorem poll_leaves_undue {result : Candidate × Option Role}
    (gives : Access.MayGive result (candidate.poll now)) :
    Instant.isDue result.1.nextDeadline now = false := by
  unfold poll at gives
  split at gives
  · obtain ⟨renewed, renewal, gives⟩ := Access.may_give_bind _ gives
    obtain ⟨config, -, undue⟩ := renew_leaves_undue valid inside renewal
    exact poll_check_leaves_undue (config ▸ valid) inside undue gives
  · rename_i later
    exact poll_check_leaves_undue valid inside (by simpa using later) gives

end Valid

end Candidate

end LiveTabs

import LiveTabs.Lease.Candidate
import LiveTabs.Proofs.Storage.Answers

/-!
# The role that a candidate reports

An operation of a candidate reports a role if and only if it leaves the candidate with another role
than before, and it is this role that is reported. This is so whatever the storage answers, and also
where an operation decides twice: then only the last decision counts.
-/

namespace LiveTabs

namespace Candidate

/-- What an operation tells of the role: nothing if it is the same, and the new one otherwise. -/
inductive Reports (before : Candidate) : Candidate × Option Role → Prop
  | same (after : Candidate) : after.role = before.role → Reports before (after, none)
  | changed (after : Candidate) (role : Role) : after.role = some role →
    before.role ≠ some role → Reports before (after, some role)

variable {candidate before after : Candidate} {now : Instant}

/-- A changed role is what is to be reported, unless it was lost. All operations report in this way,
by comparing the role before and after. -/
theorem reports_changed_role (stays : after.role = before.role ∨ after.role ≠ none) :
    Reports before (after, changedRole before.role after.role) := by
  unfold changedRole
  by_cases same : after.role = before.role
  · rw [if_pos same]
    exact .same after same
  · rw [if_neg same]
    obtain ⟨role, taken⟩ := Option.ne_none_iff_exists'.mp (stays.resolve_left same)
    rw [taken] at same ⊢
    exact .changed after role taken (Ne.symm same)

/-- Taking the lease leaves the role to be set by the look that decides. -/
theorem role_of_acquired {result : Candidate × Role}
    (gives : Access.MayGive result (candidate.acquire now)) :
    result.1.role = candidate.role := by
  obtain ⟨answer, -, gives⟩ := Access.may_give_bind _ gives
  cases answer with
  | ok written =>
    cases Access.eq_of_may_give_pure gives
    rfl
  | error fault =>
    cases Access.eq_of_may_give_pure gives
    rfl

/-- A decision leaves the role to be set, so there is one place only at which a role is set. -/
theorem role_of_decided {result : Candidate × Role}
    (gives : Access.MayGive result (candidate.decide now)) :
    result.1.role = candidate.role := by
  obtain ⟨supported, -, gives⟩ := Access.may_give_bind _ gives
  cases supported with
  | false =>
    cases Access.eq_of_may_give_pure gives
    rfl
  | true =>
    obtain ⟨answer, -, gives⟩ := Access.may_give_bind _ gives
    obtain fault | _ | lease := answer
    · cases Access.eq_of_may_give_pure gives
      rfl
    · exact role_of_acquired gives
    · dsimp only at gives
      split at gives
      · exact role_of_acquired gives
      split at gives
      · split at gives <;> cases Access.eq_of_may_give_pure gives <;> rfl
      · cases Access.eq_of_may_give_pure gives
        rfl

/-- An evaluation reports the role that it sets, if it is a new one. Everything else that reports a
role rests on this. -/
theorem reports_of_evaluated {result : Candidate × Option Role}
    (gives : Access.MayGive result (candidate.evaluate now)) :
    candidate.Reports result ∧ result.1.role ≠ none := by
  obtain ⟨⟨decided, role⟩, decision, gives⟩ := Access.may_give_bind _ gives
  cases Access.eq_of_may_give_pure gives
  have unset : decided.role = candidate.role := role_of_decided decision
  dsimp only
  rw [unset]
  exact ⟨reports_changed_role (.inr nofun), nofun⟩

/-- A renewal keeps the role or sets one, but it never takes it away. -/
theorem role_of_renewed {renewed : Candidate}
    (gives : Access.MayGive renewed (candidate.renew now)) :
    renewed.role = candidate.role ∨ renewed.role ≠ none := by
  obtain ⟨answer, -, gives⟩ := Access.may_give_bind _ gives
  cases answer with
  | error fault =>
    cases Access.eq_of_may_give_pure gives
    exact .inl rfl
  | ok lease =>
    dsimp only at gives
    split at gives
    · obtain ⟨evaluated, evaluation, gives⟩ := Access.may_give_bind _ gives
      cases Access.eq_of_may_give_pure gives
      exact .inr (reports_of_evaluated evaluation).2
    · obtain ⟨-, -, gives⟩ := Access.may_give_bind _ gives
      cases Access.eq_of_may_give_pure gives
      exact .inl rfl

/-- A regular look sets a role, as it is an evaluation. -/
theorem role_of_checked {checked : Candidate}
    (gives : Access.MayGive checked (candidate.check now)) : checked.role ≠ none := by
  obtain ⟨evaluated, evaluation, gives⟩ := Access.may_give_bind _ gives
  cases Access.eq_of_may_give_pure gives
  exact (reports_of_evaluated evaluation).2

/-- The first evaluation reports a new role. -/
theorem reports_of_init {result : Candidate × Option Role}
    (gives : Access.MayGive result (candidate.init now)) : candidate.Reports result := by
  obtain ⟨reports, -⟩ := reports_of_evaluated gives
  cases reports with
  | same after kept => exact .same after kept
  | changed after role taken different => exact .changed after role taken different

/-- A notice of a change reports a new role. -/
theorem reports_of_notice {key : String} {result : Candidate × Option Role}
    (gives : Access.MayGive result (candidate.noticeChange now key)) :
    candidate.Reports result := by
  unfold noticeChange at gives
  split at gives
  · cases Access.eq_of_may_give_pure gives
    exact .same candidate rfl
  · exact (reports_of_evaluated gives).1

/-- The regular look reports the role with which the poll ends, if it differs from the one with
which the poll began. -/
theorem reports_of_poll_check {renewed : Candidate} {result : Candidate × Option Role}
    (stays : renewed.role = before.role ∨ renewed.role ≠ none)
    (gives : Access.MayGive result
      (if Instant.isDue renewed.checkAt now then do
          let checked ← renewed.check now
          pure (checked, changedRole before.role checked.role)
        else pure (renewed, changedRole before.role renewed.role))) : before.Reports result := by
  split at gives
  · obtain ⟨checked, look, gives⟩ := Access.may_give_bind _ gives
    cases Access.eq_of_may_give_pure gives
    exact reports_changed_role (.inr (role_of_checked look))
  · cases Access.eq_of_may_give_pure gives
    exact reports_changed_role stays

/-- A poll reports a new role once, even if it decides twice: the role before the renewal is
compared with the one after the look. -/
theorem reports_of_poll {result : Candidate × Option Role}
    (gives : Access.MayGive result (candidate.poll now)) : candidate.Reports result := by
  unfold poll at gives
  split at gives
  · obtain ⟨renewed, renewal, gives⟩ := Access.may_give_bind _ gives
    exact reports_of_poll_check (role_of_renewed renewal) gives
  · exact reports_of_poll_check (.inl rfl) gives

/-- A release leaves the candidate without role and deadlines, and otherwise as it was. -/
theorem eq_of_released {released : Candidate} (gives : Access.MayGive released candidate.release) :
    released = { candidate with role := none, renewAt := none, checkAt := none } := by
  unfold release at gives
  split at gives
  · obtain ⟨supported, -, gives⟩ := Access.may_give_bind _ gives
    split at gives
    · obtain ⟨_, -, gives⟩ := Access.may_give_bind _ gives
      exact Access.eq_of_may_give_pure gives
    · exact Access.eq_of_may_give_pure gives
  · exact Access.eq_of_may_give_pure gives

/-- A candidate that has left the election has no role. -/
theorem role_of_released {released : Candidate}
    (gives : Access.MayGive released candidate.release) : released.role = none :=
  congrArg role (eq_of_released gives)

end Candidate

end LiveTabs

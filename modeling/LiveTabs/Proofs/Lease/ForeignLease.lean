import LiveTabs.Proofs.Lease.FreshLease
import LiveTabs.Proofs.Lease.Ownership

/-!
# Fresh leases of other tabs under failing calls

A candidate that finds a fresh lease of another tab neither writes nor removes, whichever of its
calls fail, and whatever role and deadlines it comes with: writes and removals are reachable only
from a lease that was read, and a failed read leads without writing. If no call fails, it follows
and gives up its renewal. `fresh_foreign_lease_is_left` says both of every operation.
-/

namespace LiveTabs

namespace Candidate

/-- A fresh lease of another tab is found foreign, and nothing else is. The claim is stated with the
lease, and the lemmas with what is found. -/
theorem standing_foreign_iff (candidate : Candidate) (now : Instant) (text : Option String) :
    candidate.standing now text = .foreign ↔
      ∃ lease, Lease.held text = some lease ∧
        lease.isStale now candidate.config.leaseTtl = false ∧
        lease.isOwnedBy candidate.tabId = false := by
  unfold standing
  cases Lease.held text with
  | none => simp
  | some lease =>
    dsimp only
    split
    · simp_all
    split <;> simp_all

/-- What is found depends on the tab and its settings alone, so it stays the same between a renewal
and a look in one poll. -/
theorem SameTab.standing {before after : Candidate} (same : before.SameTab after) (now : Instant)
    (text : Option String) : after.standing now text = before.standing now text := by
  unfold Candidate.standing
  rw [same.tabId, same.config]

/-- What an operation makes of a candidate and a text that it leaves: the tab stays the same. -/
structure Leaves (candidate : Candidate) (text : Option String) (result : Candidate)
    (after : Option String) : Prop where
  same : candidate.SameTab result
  left : after = text

section Foreign

variable {now : Instant} {text : Option String}

/-- Whichever calls fail, a decision leaves a fresh lease of another tab. If it cannot be read, the
candidate leads without writing. -/
theorem always_decide_leaves (candidate : Candidate)
    (foreign : candidate.standing now text = .foreign) :
    Access.Always (fun decision => candidate.Leaves text decision.1) text
      (candidate.decide now) := by
  obtain ⟨lease, held, fresh, other⟩ := (candidate.standing_foreign_iff now text).mp foreign
  have leads : candidate.Leaves text candidate.disarmRenewal text := ⟨⟨rfl, rfl⟩, rfl⟩
  rintro (_ | _)
  · exact leads
  refine always_read candidate.config.leaseKey text ?_ fun _ => leads
  rw [held]
  simp only [fresh, other]
  exact leads

/-- Whichever calls fail, a look leaves a fresh lease of another tab, and a candidate that could
read it follows. -/
theorem always_evaluate_leaves (candidate : Candidate)
    (foreign : candidate.standing now text = .foreign) :
    Access.Always (fun result => candidate.Leaves text result.1) text
      (candidate.evaluate now) := by
  refine Access.always_bind text _ _
    (Access.always_mono text _ (candidate.always_decide_leaves foreign) ?_)
  rintro ⟨decided, role⟩ after ⟨⟨tabId, config⟩, left⟩
  exact ⟨⟨tabId, config⟩, left⟩

/-- Whichever calls fail, a renewal leaves a fresh lease of another tab: it gives way to a look, or
was not able to read. -/
theorem always_renew_leaves (candidate : Candidate)
    (foreign : candidate.standing now text = .foreign) :
    Access.Always (candidate.Leaves text) text (candidate.renew now) := by
  obtain ⟨lease, held, -, other⟩ := (candidate.standing_foreign_iff now text).mp foreign
  refine always_read candidate.config.leaseKey text ?_ fun _ => ⟨⟨rfl, rfl⟩, rfl⟩
  rw [held]
  simp only [Option.any_some, other, Bool.not_false, if_true]
  refine Access.always_bind text _ _
    (Access.always_mono text _ (candidate.disarmRenewal.always_evaluate_leaves foreign) ?_)
  rintro ⟨evaluated, reported⟩ after ⟨⟨tabId, config⟩, left⟩
  exact ⟨⟨tabId, config⟩, left⟩

/-- Whichever calls fail, what poll does after the renewal leaves a fresh lease of another tab. -/
theorem always_poll_check_leaves (candidate : Candidate) (before : Option Role)
    (foreign : candidate.standing now text = .foreign) :
    Access.Always (fun result => candidate.Leaves text result.1) text
      (if Instant.isDue candidate.checkAt now then do
          let checked ← candidate.check now
          pure (checked, changedRole before checked.role)
        else pure (candidate, changedRole before candidate.role)) := by
  split
  · refine Access.always_bind text _ _ (Access.always_bind text _ _
      (Access.always_mono text _ ((candidate.armCheck now).always_evaluate_leaves foreign) ?_))
    rintro ⟨evaluated, reported⟩ after ⟨⟨tabId, config⟩, left⟩
    exact ⟨⟨tabId, config⟩, left⟩
  · exact ⟨⟨rfl, rfl⟩, rfl⟩

/-- Whichever calls fail, poll leaves a fresh lease of another tab, also when it looks twice. -/
theorem always_poll_leaves (candidate : Candidate)
    (foreign : candidate.standing now text = .foreign) :
    Access.Always (fun result => candidate.Leaves text result.1) text (candidate.poll now) := by
  unfold poll
  split
  · refine Access.always_bind text _ _
      (Access.always_mono text _ (candidate.always_renew_leaves foreign) ?_)
    -- The renewal leaves the same tab and text, so the second look finds the same lease.
    rintro renewed after ⟨same, rfl⟩
    refine Access.always_mono after _ (renewed.always_poll_check_leaves candidate.role
      ((same.standing now after).trans foreign)) ?_
    rintro result last ⟨still, rfl⟩
    exact ⟨⟨still.tabId.trans same.tabId, still.config.trans same.config⟩, rfl⟩
  · exact candidate.always_poll_check_leaves candidate.role foreign

/-- Whichever calls fail, a release leaves a lease of another tab, since only one that was read as
its own is removed. -/
theorem always_release_leaves (candidate : Candidate)
    (foreign : candidate.standing now text = .foreign) :
    Access.Always (candidate.Leaves text) text candidate.release := by
  obtain ⟨lease, held, -, other⟩ := (candidate.standing_foreign_iff now text).mp foreign
  have leaves : candidate.Leaves text
      { candidate with role := none, renewAt := none, checkAt := none } text := ⟨⟨rfl, rfl⟩, rfl⟩
  unfold release
  split
  · rintro (_ | _)
    · exact leaves
    refine Access.always_bind text candidate.clearOwnLease _ ?_
    refine always_read candidate.config.leaseKey text ?_ fun _ => leaves
    rw [held]
    simp only [other]
    exact leaves
  · exact leaves

/-- Whichever calls fail, every operation leaves a fresh lease of another tab. -/
theorem always_act_leaves (candidate : Candidate)
    (foreign : candidate.standing now text = .foreign) {action : Candidate.Action}
    (atNow : action.IsAt now) :
    Access.Always (fun result => candidate.Leaves text result.1) text (candidate.act action) := by
  cases action with
  | init time =>
    cases atNow
    refine Access.always_mono text _
      ((candidate.armCheck now).always_evaluate_leaves foreign) ?_
    rintro result after ⟨⟨tabId, config⟩, left⟩
    exact ⟨⟨tabId, config⟩, left⟩
  | evaluate time =>
    cases atNow
    exact candidate.always_evaluate_leaves foreign
  | poll time =>
    cases atNow
    exact candidate.always_poll_leaves foreign
  | noticeChange time key =>
    cases atNow
    simp only [act, noticeChange]
    split
    · exact ⟨⟨rfl, rfl⟩, rfl⟩
    · exact candidate.always_evaluate_leaves foreign
  | release => exact Access.always_bind text _ _ (candidate.always_release_leaves foreign)

end Foreign

/-- Whatever role and deadlines a candidate has, and whichever calls fail, no operation changes the
stored text while that is a lease of another tab which is not stale. If no call fails, the candidate
follows and renews nothing after every operation that looks at the lease.

Proof: along every course of answers, an operation reads the lease of the other tab or fails to
read it, and it writes or removes after neither. Without failures it ends as the candidate responds
to the text, which it finds foreign. -/
theorem fresh_foreign_lease_is_left {σ : Type} {storage : Storage σ} (candidate : Candidate)
    {usable : σ → Prop} {text : σ → Option String}
    (falters : storage.Falters candidate.config.leaseKey usable text) {state : σ}
    (usableNow : usable state) {now : Instant} {lease : Lease}
    (held : Lease.held (text state) = some lease)
    (foreign : lease.isOwnedBy candidate.tabId = false)
    (fresh : lease.isStale now candidate.config.leaseTtl = false) {action : Candidate.Action}
    (atNow : action.IsAt now) (faults : List (Option StorageError)) :
    let program := candidate.act action
    let ended := Access.runFaulty storage faults state program
    text ended.2 = text state ∧
      (Access.succeeds storage faults state program = true → candidate.Looks action →
        ended.1.1.role = some .follower ∧ ended.1.1.renewAt = none) := by
  have found : candidate.standing now (text state) = .foreign :=
    (candidate.standing_foreign_iff now (text state)).mpr ⟨lease, held, fresh, foreign⟩
  have confined := candidate.confined_act atNow
  refine ⟨?_, ?_⟩
  · obtain ⟨⟨-, left⟩, -⟩ := Access.run_faulty_always falters _ confined faults state usableNow
      (candidate.always_act_leaves found atNow)
    exact left
  · intro succeeded looks
    obtain ⟨result, -⟩ :=
      Access.run_faulty_of_succeeds falters _ confined faults state usableNow succeeded
    have responds : (candidate.respond (text state) action).1 =
        (Access.run .singleText (text state) (candidate.act action)).1.1 := by
      rw [← candidate.outcome_act]
      rfl
    have young : now.nanoseconds ≤
        lease.acquiredAt.nanoseconds + candidate.config.leaseTtl.nanoseconds := by
      rw [← Bool.not_eq_true, Lease.is_stale_iff] at fresh
      omega
    have other : lease.owner ≠ candidate.tabId := by
      simpa [Lease.isOwnedBy] using foreign
    obtain ⟨follows, unarmed⟩ := (candidate.respond_foreign held young other atNow).2 looks
    rw [responds, ← result] at follows unarmed
    exact ⟨follows, unarmed⟩

/-- A tab that leads and renews, although the lease under its key has come to be that of "b". -/
def overtaken : Candidate where
  tabId := "a"
  config := {}
  role := some .leader
  renewAt := some (.sinceEpoch 5000)
  checkAt := some (.sinceEpoch 5000)

/-- A store with the lease that another tab has taken. -/
def storeOfOther : SharedStore :=
  { memory := { entries := ⟨[("tabsync:leader", Lease.render ⟨"b", .sinceEpoch 4000⟩)]⟩ } }

/-- When its renewal and its regular look are due, it leaves the lease even if the first read fails,
and follows if none does. -/
theorem overtaken_leader_yields :
    let program := overtaken.act (.poll (.sinceEpoch 6000))
    let store := storeOfOther
    let faulty := Access.runFaulty SharedStore.storage [some .unavailable] store program
    let ended := Access.runFaulty SharedStore.storage [] store program
    faulty.2.peek "tabsync:leader" = store.peek "tabsync:leader" ∧
      ended.2.peek "tabsync:leader" = store.peek "tabsync:leader" ∧
      ended.1.1.role = some .follower ∧ ended.1.1.renewAt = none := by
  have unpinned : SharedStore.Unpinned "tabsync:leader" storeOfOther := by
    rintro pin ⟨⟩
  have held : Lease.held (storeOfOther.peek "tabsync:leader") =
      some ⟨"b", (Instant.sinceEpoch 4000).truncate⟩ :=
    Lease.held_render _
  have atNow : (Action.poll (.sinceEpoch 6000)).IsAt (.sinceEpoch 6000) := rfl
  have left := fun faults => fresh_foreign_lease_is_left overtaken
    (SharedStore.falters "tabsync:leader") unpinned held (by decide) (by decide) atNow faults
  obtain ⟨keeps, stands⟩ := left []
  obtain ⟨follows, unarmed⟩ :=
    stands (by decide +kernel) (show overtaken.Looks (.poll (.sinceEpoch 6000)) by decide)
  exact ⟨(left [some .unavailable]).1, keeps, follows, unarmed⟩

end Candidate

end LiveTabs

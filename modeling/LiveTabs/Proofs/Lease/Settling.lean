import LiveTabs.Proofs.Lease.Response

/-!
# Settled candidates

A candidate is settled if it leads only while the stored lease is its own. Operations keep it so,
and every look at the lease makes it so. An operation whose calls are separated by those of other
tabs may leave it otherwise, but not right after its own write: `after_write_act` says that from
there the operation ends settled if nobody comes between.
-/

namespace LiveTabs

namespace Candidate

/-- A candidate that leads only if the lease in a text is its own. -/
def Settled (candidate : Candidate) (text : Option String) : Prop :=
  candidate.isLeader = true → Lease.IsHeldBy text candidate.tabId

/-- A candidate has written its lease and holds it, so a leader's role is backed by the text. -/
theorem settled_of_claim (candidate : Candidate) (now : Instant) {claimant : Candidate}
    (same : claimant.tabId = candidate.tabId) :
    candidate.Settled (some (claimant.claim now).render) := by
  intro leads
  rw [← same]
  exact Lease.held_by_writer (claimant.claim now)

/-- A look at the lease leaves the candidate settled, whatever it was before: it follows the holder,
or is the holder. -/
theorem settled_looked (candidate : Candidate) (now : Instant) (text : Option String) :
    (candidate.looked now text).1.Settled (candidate.looked now text).2 := by
  obtain ⟨-, took⟩ | ⟨lease, held, -, ⟨owned, kept⟩ | ⟨-, follows⟩⟩ :=
    candidate.looked_cases now text
  · rw [took]
    exact settled_of_claim _ now rfl
  · rw [kept]
    exact fun leads => ⟨lease, held, owned⟩
  · rw [follows]
    simp [Settled, isLeader]

/-- A renewal leaves the candidate settled, as it writes the lease of a leader or looks at that of
another tab. -/
theorem settled_renewed (candidate : Candidate) (now : Instant) (text : Option String) :
    (candidate.renewed now text).1.Settled (candidate.renewed now text).2 := by
  unfold renewed
  split
  · exact settled_looked _ now text
  · exact settled_of_claim _ now rfl

/-- The regular look of poll keeps a settled candidate settled, be it due or not. -/
theorem settled_polled_check {candidate : Candidate} {text : Option String}
    (settled : candidate.Settled text) (now : Instant) :
    (candidate.polledCheck now text).1.Settled (candidate.polledCheck now text).2 := by
  unfold polledCheck
  split
  · exact settled_looked _ now text
  · exact settled

/-- Every operation keeps a settled candidate settled, if no other tab acts in between. In a race
others do, which is what the rest is about. -/
theorem settled_respond {candidate : Candidate} {text : Option String}
    (settled : candidate.Settled text) (action : Candidate.Action) :
    (candidate.respond text action).1.Settled (candidate.respond text action).2 := by
  cases action with
  | init now => exact settled_looked _ now text
  | evaluate now => exact settled_looked _ now text
  | poll now =>
    refine settled_polled_check ?_ now
    unfold polledRenewal
    split
    · exact settled_renewed candidate now text
    · exact settled
  | noticeChange now key =>
    simp only [respond]
    split
    · exact settled
    · exact settled_looked _ now text
  | release => simp [respond, released, Settled, isLeader]

/-- A candidate that learns of a change of the lease is settled, whatever it was before. -/
theorem settled_of_notice (candidate : Candidate) (text : Option String) (now : Instant) :
    let response := candidate.respond text (.noticeChange now (some candidate.config.leaseKey))
    response.1.Settled response.2 := by
  by_cases idle : candidate.role = none
  · simp [respond, Settled, isLeader, idle]
  · simpa [respond, idle] using settled_looked candidate now text

/-- A decision to lead that was followed by a write is backed by the lease: what is decided after
the write agrees with what was written. -/
theorem after_write_acquire (candidate : Candidate) (now : Instant) :
    Access.AfterWrite
      (fun ended => Settled { ended.1.1 with role := some ended.1.2 } ended.2)
      (candidate.acquire now) := by
  refine ⟨settled_of_claim _ now rfl, ?_⟩
  rintro (error | written) <;> trivial

/-- Reading the lease writes nothing, so nothing has to be backed by it. -/
theorem after_write_read {α : Type} {property : α × Option String → Prop} (key : String)
    {next : Except StorageError (Option Lease) → Access α}
    (onward : ∀ answer, Access.AfterWrite property (next answer)) :
    Access.AfterWrite property (Lease.read key >>= next) := by
  rintro (error | text) <;> exact onward _

/-- A decision settles after its write, which is the last call that it makes. -/
theorem after_write_decide (candidate : Candidate) (now : Instant) :
    Access.AfterWrite
      (fun ended => Settled { ended.1.1 with role := some ended.1.2 } ended.2)
      (candidate.decide now) := by
  rintro (_ | _)
  · trivial
  refine after_write_read candidate.config.leaseKey ?_
  rintro (error | _ | lease)
  · trivial
  · exact after_write_acquire candidate now
  · dsimp only
    split
    · exact after_write_acquire candidate now
    split
    · split <;> trivial
    · trivial

/-- A look at the lease settles after its write: the role that it sets is the one that was decided
on. -/
theorem after_write_evaluate (candidate : Candidate) (now : Instant) :
    Access.AfterWrite (fun ended => ended.1.1.Settled ended.2) (candidate.evaluate now) := by
  exact Access.after_write_bind _ _ (after_write_decide candidate now) fun result => trivial

/-- A renewal settles after its write, both where it writes by itself and where it gives way to a
look. -/
theorem after_write_renew (candidate : Candidate) (now : Instant) :
    Access.AfterWrite (fun ended => ended.1.Settled ended.2) (candidate.renew now) := by
  refine after_write_read candidate.config.leaseKey ?_
  rintro (error | lease)
  · trivial
  · dsimp only
    split
    · exact Access.after_write_bind _ _ (after_write_evaluate candidate.disarmRenewal now)
        fun result => trivial
    · exact ⟨settled_of_claim _ now rfl, fun answer => trivial⟩

/-- What poll does after the renewal settles after its write, if there is one. -/
theorem after_write_poll_check (candidate : Candidate) (before : Option Role) (now : Instant) :
    Access.AfterWrite (fun ended => ended.1.1.Settled ended.2)
      (if Instant.isDue candidate.checkAt now then do
          let checked ← candidate.check now
          pure (checked, changedRole before checked.role)
        else pure (candidate, changedRole before candidate.role)) := by
  split
  · exact Access.after_write_bind _ _
      (Access.after_write_bind _ _ (after_write_evaluate (candidate.armCheck now) now)
        fun result => trivial) fun checked => trivial
  · trivial

/-- Poll settles after each of its writes: the renewal is followed by a look that finds the lease
just written. -/
theorem after_write_poll (candidate : Candidate) (now : Instant) :
    Access.AfterWrite (fun ended => ended.1.1.Settled ended.2) (candidate.poll now) := by
  unfold poll
  split
  · refine Access.after_write_bind _ _
      (Access.after_write_mono _ (after_write_renew candidate now) ?_)
      fun renewed => after_write_poll_check renewed candidate.role now
    rintro ⟨renewed, text⟩ settled
    have still := settled_polled_check settled now
    rw [← outcome_poll_check renewed candidate.role now text] at still
    exact still
  · exact after_write_poll_check candidate candidate.role now

/-- A release leaves nothing to be settled, as a candidate without a role claims nothing. -/
theorem after_write_release (candidate : Candidate) :
    Access.AfterWrite (fun ended => ended.1.Settled ended.2) candidate.release := by
  unfold release
  split
  · refine Access.after_write_bind _ _ (fun answer => trivial) ?_
    rintro (_ | _)
    · trivial
    rw [if_pos rfl]
    refine Access.after_write_bind _ _ ?_ fun cleared => trivial
    refine Access.after_write_of_always _ ?_
    intro ended leads
    simp [isLeader] at leads
  · trivial

/-- Every operation settles after each of its writes. So a tab that was interrupted right after a
write still ends in agreement with what it wrote. -/
theorem after_write_act (candidate : Candidate) (action : Candidate.Action) :
    Access.AfterWrite (fun ended => ended.1.1.Settled ended.2) (candidate.act action) := by
  cases action with
  | init now => exact after_write_evaluate (candidate.armCheck now) now
  | evaluate now => exact after_write_evaluate candidate now
  | poll now => exact after_write_poll candidate now
  | noticeChange now key =>
    simp only [act, noticeChange]
    split
    · trivial
    · exact after_write_evaluate candidate now
  | release =>
    exact Access.after_write_bind _ _ (after_write_release candidate) fun released => trivial

end Candidate

end LiveTabs

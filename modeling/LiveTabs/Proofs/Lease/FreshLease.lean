import LiveTabs.Proofs.Lease.Response

/-!
# Fresh leases

What operations make of a lease that is not stale. A fresh lease of another tab is left as it is,
and who looks at it follows. The holder of a fresh lease keeps leading, and keeps the lease fresh by
renewing it in time: a candidate that is `Punctual` stays so whatever it does but release.
-/

namespace LiveTabs

namespace Candidate

/-- Whether an operation looks at the lease to decide on a role or to renew. -/
def Looks (candidate : Candidate) : Candidate.Action → Prop
  | .init _ => True
  | .evaluate _ => True
  | .poll now =>
    Instant.isDue candidate.renewAt now = true ∨ Instant.isDue candidate.checkAt now = true
  | .noticeChange _ key =>
    key.getD candidate.config.leaseKey = candidate.config.leaseKey ∧ candidate.role ≠ none
  | .release => False

instance (candidate : Candidate) : (action : Candidate.Action) → Decidable (candidate.Looks action)
  | .init _ => inferInstanceAs (Decidable True)
  | .evaluate _ => inferInstanceAs (Decidable True)
  | .poll _ => inferInstanceAs (Decidable (_ ∨ _))
  | .noticeChange _ _ => inferInstanceAs (Decidable (_ ∧ _))
  | .release => inferInstanceAs (Decidable False)

/-- A fresh lease of another tab makes the candidate follow, whatever it did before, and the text
stays. -/
theorem looked_foreign (candidate : Candidate) {now : Instant} {text : Option String}
    {lease : Lease} (held : Lease.held text = some lease)
    (fresh : now.nanoseconds ≤
      lease.acquiredAt.nanoseconds + candidate.config.leaseTtl.nanoseconds)
    (foreign : lease.owner ≠ candidate.tabId) :
    candidate.looked now text =
      ({ candidate.disarmRenewal with role := some .follower }, text) := by
  obtain ⟨stale, -⟩ | ⟨other, again, -, ⟨owned, -⟩ | ⟨-, follows⟩⟩ :=
    candidate.looked_cases now text
  · have late := stale lease held
    omega
  · rw [held] at again
    cases again
    exact absurd owned foreign
  · exact follows

/-- A fresh lease of its own makes the candidate lead, with the renewal that it has or with a new
one. -/
theorem looked_own (candidate : Candidate) {now : Instant} {text : Option String}
    {lease : Lease} (held : Lease.held text = some lease)
    (fresh : now.nanoseconds ≤
      lease.acquiredAt.nanoseconds + candidate.config.leaseTtl.nanoseconds)
    (owned : lease.owner = candidate.tabId) :
    candidate.looked now text =
      ({ candidate with
          role := some .leader
          renewAt := some (candidate.renewAt.getD
            (now.after candidate.config.heartbeatInterval)) }, text) := by
  obtain ⟨stale, -⟩ | ⟨other, again, -, ⟨-, kept⟩ | ⟨foreign, -⟩⟩ :=
    candidate.looked_cases now text
  · have late := stale lease held
    omega
  · exact kept
  · rw [held] at again
    cases again
    exact absurd owned foreign

/-- A candidate that follows and renews nothing. -/
structure StandsBack (candidate : Candidate) : Prop where
  follows : candidate.role = some .follower
  unarmed : candidate.renewAt = none

/-- The regular look at a fresh lease of another tab leaves the text. A candidate that looks stands
back, and one that stands back keeps doing so. -/
theorem polled_check_foreign (candidate : Candidate) {now : Instant} {text : Option String}
    {lease : Lease} (held : Lease.held text = some lease)
    (fresh : now.nanoseconds ≤
      lease.acquiredAt.nanoseconds + candidate.config.leaseTtl.nanoseconds)
    (foreign : lease.owner ≠ candidate.tabId) :
    (candidate.polledCheck now text).2 = text ∧
      (Instant.isDue candidate.checkAt now = true ∨ candidate.StandsBack →
        (candidate.polledCheck now text).1.StandsBack) := by
  unfold polledCheck
  split
  · rw [looked_foreign (candidate.armCheck now) held fresh foreign]
    exact ⟨rfl, fun _ => ⟨rfl, rfl⟩⟩
  · rename_i waits
    exact ⟨rfl, fun standsBack => standsBack.resolve_left waits⟩

/-- No operation on a fresh lease of another tab changes the text, and every one that looks at it
makes the candidate stand back. -/
theorem respond_foreign (candidate : Candidate) {now : Instant} {text : Option String}
    {lease : Lease} (held : Lease.held text = some lease)
    (fresh : now.nanoseconds ≤
      lease.acquiredAt.nanoseconds + candidate.config.leaseTtl.nanoseconds)
    (foreign : lease.owner ≠ candidate.tabId) {action : Candidate.Action}
    (atNow : action.IsAt now) :
    (candidate.respond text action).2 = text ∧
      (candidate.Looks action → (candidate.respond text action).1.StandsBack) := by
  cases action with
  | init time =>
    cases atNow
    rw [respond, looked_foreign (candidate.armCheck now) held fresh foreign]
    exact ⟨rfl, fun _ => ⟨rfl, rfl⟩⟩
  | evaluate time =>
    cases atNow
    rw [respond, looked_foreign candidate held fresh foreign]
    exact ⟨rfl, fun _ => ⟨rfl, rfl⟩⟩
  | poll time =>
    cases atNow
    have displaced : candidate.isDisplaced text = true := by
      simp [isDisplaced, held, Lease.isOwnedBy, foreign]
    rw [respond, polled, polledRenewal]
    split
    · rw [renewed, if_pos displaced, looked_foreign candidate.disarmRenewal held fresh foreign]
      obtain ⟨same, standsBack⟩ := polled_check_foreign
        { candidate.disarmRenewal.disarmRenewal with role := some .follower } held fresh foreign
      exact ⟨same, fun _ => standsBack (.inr ⟨rfl, rfl⟩)⟩
    · rename_i waits
      obtain ⟨same, standsBack⟩ := polled_check_foreign candidate held fresh foreign
      exact ⟨same, fun looks => standsBack (.inl (looks.resolve_left waits))⟩
  | noticeChange time key =>
    cases atNow
    simp only [respond]
    split
    · rename_i unconcerned
      exact ⟨rfl, fun looks => absurd unconcerned (by simp [looks.1, looks.2])⟩
    · rw [looked_foreign candidate held fresh foreign]
      exact ⟨rfl, fun _ => ⟨rfl, rfl⟩⟩
  | release =>
    refine ⟨?_, fun looks => looks.elim⟩
    have kept : (Lease.held text).any (fun lease => lease.isOwnedBy candidate.tabId) = false := by
      simp [held, Lease.isOwnedBy, foreign]
    simp [respond, released, kept]

/-- A leader in good time: its lease is stored as it was written at a whole millisecond, and it is
going to be renewed at most one interval later, which is not over yet. -/
structure Punctual (acquired now : Instant) (candidate : Candidate) (text : Option String) :
    Prop where
  leads : candidate.role = some .leader
  written : text = some (candidate.claim acquired).render
  whole : acquired.IsWhole
  renews : ∃ renewal, candidate.renewAt = some renewal ∧ now ≤ renewal ∧
    renewal.nanoseconds ≤ acquired.nanoseconds + candidate.config.heartbeatInterval.nanoseconds

variable {acquired now : Instant} {candidate : Candidate} {text : Option String}

/-- The lease of a punctual leader is read as it was written, because it was written at a whole
millisecond. -/
theorem Punctual.held (punctual : candidate.Punctual acquired now text) :
    Lease.held text = some (candidate.claim acquired) := by
  rw [punctual.written, Lease.held_render, Lease.stored_of_whole _ punctual.whole]

/-- The lease of a punctual leader is not older than one interval of renewal, since the renewal that
it waits for is not past. -/
theorem Punctual.age (punctual : candidate.Punctual acquired now text) :
    now.nanoseconds ≤
      acquired.nanoseconds + candidate.config.heartbeatInterval.nanoseconds := by
  obtain ⟨renewal, -, waits, bound⟩ := punctual.renews
  rw [Instant.le_iff] at waits
  omega

/-- The lease of a punctual leader is fresh, as valid settings let a lease live for longer than one
interval. -/
theorem Punctual.fresh (punctual : candidate.Punctual acquired now text)
    (valid : candidate.config.fault? = none) :
    now.nanoseconds ≤ acquired.nanoseconds + candidate.config.leaseTtl.nanoseconds := by
  have age := punctual.age
  have intervals := LeaderConfig.intervals_of_valid valid
  omega

/-- A leader that has just written its lease is punctual, which is how a reign begins and how it is
renewed. -/
theorem punctual_of_claim (candidate : Candidate) {now : Instant} (whole : now.IsWhole)
    (leads : candidate.role = some .leader) :
    (candidate.armRenewal now).Punctual now now (some (candidate.claim now).render) :=
  ⟨leads, rfl, whole, _, rfl, Instant.le_after _ _, Instant.after_le _ _⟩

/-- A punctual leader that looks at its lease stays as it is: it finds a fresh lease of its own, and
its renewal is set. -/
theorem Punctual.looked (punctual : candidate.Punctual acquired now text)
    (valid : candidate.config.fault? = none) : candidate.looked now text = (candidate, text) := by
  obtain ⟨renewal, armed, -⟩ := punctual.renews
  rw [looked_own candidate punctual.held (punctual.fresh valid) rfl, armed, Option.getD_some]
  obtain ⟨tabId, config, role, renewAt, checkAt⟩ := candidate
  cases punctual.leads
  cases armed
  rfl

/-- The regular look of poll leaves a punctual leader punctual, be it due or not. -/
theorem Punctual.polled_check (punctual : candidate.Punctual acquired now text)
    (valid : candidate.config.fault? = none) :
    (candidate.polledCheck now text).1.Punctual acquired now
      (candidate.polledCheck now text).2 := by
  have armed : (candidate.armCheck now).Punctual acquired now text :=
    ⟨punctual.leads, punctual.written, punctual.whole, punctual.renews⟩
  unfold polledCheck
  split
  · rw [armed.looked valid]
    exact armed
  · exact punctual

/-- A punctual leader stays punctual whatever it does but release: a renewal that is due is the
next lease, and every look finds a fresh lease of its own. -/
theorem Punctual.respond (punctual : candidate.Punctual acquired now text)
    (valid : candidate.config.fault? = none) (whole : now.IsWhole) {action : Candidate.Action}
    (atNow : action.IsAt now) (stays : action ≠ .release) :
    ∃ renewed, (candidate.respond text action).1.Punctual renewed now
      (candidate.respond text action).2 := by
  cases action with
  | init time =>
    cases atNow
    have armed : (candidate.armCheck now).Punctual acquired now text :=
      ⟨punctual.leads, punctual.written, punctual.whole, punctual.renews⟩
    rw [Candidate.respond, armed.looked valid]
    exact ⟨acquired, armed⟩
  | evaluate time =>
    cases atNow
    rw [Candidate.respond, punctual.looked valid]
    exact ⟨acquired, punctual⟩
  | poll time =>
    cases atNow
    rw [Candidate.respond, polled, polledRenewal]
    split
    · have own : candidate.isDisplaced text = false := by
        simp [isDisplaced, punctual.held, claim, Lease.isOwnedBy]
      rw [renewed, own, if_neg Bool.false_ne_true]
      exact ⟨now, (punctual_of_claim candidate whole punctual.leads).polled_check valid⟩
    · exact ⟨acquired, punctual.polled_check valid⟩
  | noticeChange time key =>
    cases atNow
    simp only [Candidate.respond]
    split
    · exact ⟨acquired, punctual⟩
    · rw [punctual.looked valid]
      exact ⟨acquired, punctual⟩
  | release => exact absurd rfl stays

/-- What an operation other than a release can come to: the candidate has written its lease and
leads punctually, has not looked at the lease, follows, or has found a fresh lease of its own and
keeps or sets its renewal. -/
inductive Reply (candidate : Candidate) (now : Instant) (text : Option String)
    (action : Candidate.Action) (result : Candidate × Option String) : Prop where
  | writes (looks : candidate.Looks action) (punctual : result.1.Punctual now now result.2)
  | ignores (same : result = (candidate, text)) (looksAway : ¬ candidate.Looks action)
  | follows (looks : candidate.Looks action) (role : result.1.role = some .follower)
      (kept : result.2 = text)
  | keeps (looks : candidate.Looks action) (lease : Lease) (held : Lease.held text = some lease)
      (owned : lease.owner = candidate.tabId)
      (fresh : now.nanoseconds ≤
        lease.acquiredAt.nanoseconds + candidate.config.leaseTtl.nanoseconds)
      (renewal : result.1.renewAt =
        some (candidate.renewAt.getD (now.after candidate.config.heartbeatInterval)))
      (check : result.1.checkAt = candidate.checkAt ∨
        result.1.checkAt = some (now.after candidate.config.safetyCheckInterval))
      (kept : result.2 = text)

/-- A look at the lease comes to one of these, whether or not the next regular look is set. -/
theorem reply_of_looked (action : Candidate.Action) (looks : candidate.Looks action)
    (whole : now.IsWhole) {looking : Candidate}
    (armed : looking = candidate ∨ looking = candidate.armCheck now) :
    candidate.Reply now text action (looking.looked now text) := by
  have checkAt : looking.checkAt = candidate.checkAt ∨
      looking.checkAt = some (now.after candidate.config.safetyCheckInterval) := by
    obtain rfl | rfl := armed
    · exact .inl rfl
    · exact .inr rfl
  have same : looking.tabId = candidate.tabId ∧ looking.config = candidate.config ∧
      looking.renewAt = candidate.renewAt := by
    obtain rfl | rfl := armed <;> exact ⟨rfl, rfl, rfl⟩
  obtain ⟨-, took⟩ | ⟨lease, held, fresh, ⟨owned, kept⟩ | ⟨-, follows⟩⟩ :=
    looking.looked_cases now text
  · rw [took]
    exact .writes looks (punctual_of_claim { looking with role := some .leader } whole rfl)
  · rw [kept]
    rw [same.1] at owned
    rw [same.2.1] at fresh
    refine .keeps looks lease held owned fresh ?_ checkAt rfl
    rw [same.2.1, same.2.2]
  · rw [follows]
    exact .follows looks rfl rfl

/-- Poll comes to one of these. Only a leader has a renewal to do, so a renewal is followed by a
look at the lease just written or at that of another tab. -/
theorem reply_of_polled (valid : candidate.config.fault? = none) (whole : now.IsWhole)
    (timed : candidate.WellTimed now) :
    candidate.Reply now text (.poll now) (candidate.polled now text) := by
  unfold polled polledRenewal
  split
  · rename_i due
    unfold renewed
    split
    · rename_i displaced
      obtain ⟨-, took⟩ | ⟨lease, held, fresh, ⟨owned, -⟩ | ⟨foreign, follows⟩⟩ :=
        candidate.disarmRenewal.looked_cases now text
      · rw [took]
        have leads := punctual_of_claim { candidate with role := some .leader } whole rfl
        exact .writes (.inl due) (leads.polled_check valid)
      · exact absurd displaced
          (by simp [isDisplaced, held, Lease.isOwnedBy, owned, disarmRenewal])
      · rw [follows]
        obtain ⟨same, still⟩ := polled_check_foreign
          { candidate.disarmRenewal.disarmRenewal with role := some .follower } held fresh foreign
        exact .follows (.inl due) (still (.inr ⟨rfl, rfl⟩)).follows same
    · obtain ⟨deadline, set, -⟩ := (Instant.is_due_iff _ _).mp due
      have leads := punctual_of_claim candidate whole (timed.leading (by simp [set]))
      exact .writes (.inl due) (leads.polled_check valid)
  · rename_i waits
    show candidate.Reply now text (.poll now) (candidate.polledCheck now text)
    unfold polledCheck
    split
    · rename_i due
      exact reply_of_looked (.poll now) (.inr due) whole (.inr rfl)
    · rename_i rests
      exact .ignores rfl (by simp [Looks, waits, rests])

/-- Every operation but a release comes to one of these, so what is claimed of all of them is proved
in four cases. -/
theorem reply_of_respond (valid : candidate.config.fault? = none) (whole : now.IsWhole)
    (timed : candidate.WellTimed now) {action : Candidate.Action} (atNow : action.IsAt now)
    (stays : action ≠ .release) :
    candidate.Reply now text action (candidate.respond text action) := by
  cases action with
  | init time =>
    cases atNow
    exact reply_of_looked (.init now) trivial whole (.inr rfl)
  | evaluate time =>
    cases atNow
    exact reply_of_looked (.evaluate now) trivial whole (.inl rfl)
  | poll time =>
    cases atNow
    exact reply_of_polled valid whole timed
  | noticeChange time key =>
    cases atNow
    simp only [Candidate.respond]
    split
    · rename_i unconcerned
      exact .ignores rfl fun looks => unconcerned.elim (absurd looks.1) looks.2
    · rename_i concerned
      rw [not_or, Classical.not_not] at concerned
      exact reply_of_looked (.noticeChange now key) concerned whole (.inl rfl)
  | release => exact absurd rfl stays

/-- An operation that changes the text and leaves a leader leaves a punctual one, because the only
text that it may have written is its lease. -/
theorem punctual_of_change (valid : candidate.config.fault? = none) (whole : now.IsWhole)
    (timed : candidate.WellTimed now) {action : Candidate.Action} (atNow : action.IsAt now)
    (changed : (candidate.respond text action).2 ≠ text)
    (leads : (candidate.respond text action).1.role = some .leader) :
    (candidate.respond text action).1.Punctual now now (candidate.respond text action).2 := by
  have stays : action ≠ .release := by
    rintro rfl
    cases leads
  cases reply_of_respond valid whole timed atNow stays with
  | writes looks punctual => exact punctual
  | ignores same looksAway => exact absurd (by rw [same]) changed
  | follows looks role kept => exact absurd kept changed
  | keeps looks lease held owned fresh renewal check kept => exact absurd kept changed

end Candidate

end LiveTabs
